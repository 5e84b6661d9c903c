import DiagramStudio.Proofs.Diagram.Label

/-!
# Spellings

A normalized text spells its source: characters are kept, runs of blanks become single spaces, and
words stand for ampersands, with a space on each side where the word would touch a letter or a
digit. What a word touches is read off the text written, where one pass spells the ampersand and
another one may spell its neighbours later. `Spelling.trans` says that the words of both passes keep
apart from their neighbours in the end.

## Main definitions

- `Spelling`: how a text spells its source, character by character
- `Piece`, `Apart`: the same as a list of pieces, in which words stand apart
-/

namespace DiagramStudio.Ampersand

open Text Span

/-- `Spelling last t u` says that `u` spells `t`, where `last` is the character written directly
before. -/
inductive Spelling : Option Char → Text → Text → Prop
  | nil (last : Option Char) : Spelling last [] []
  | char {last : Option Char} (c : Char) {t u : Text} :
    Spelling (some c) t u → Spelling last (c :: t) (c :: u)
  | space {last : Option Char} {c : Char} {t u : Text} :
    isBlank c = true → Spelling (some ' ') t u → Spelling last (c :: t) (' ' :: u)
  /-- A blank is dropped only after another one. -/
  | drop {last : Option Char} {c : Char} {t u : Text} :
    isBlank c = true → last.any isBlank = true → Spelling last t u → Spelling last (c :: t) u
  | word {last : Option Char} {t u : Text} :
    Spelling (some (lastOfSpell u.head?)) t u →
      Spelling last ('&' :: t) (spell last u.head? ++ u)

/-! ## Neighbours of words -/

theorem spell_congr {before before' after after' : Option Char}
    (hb : touches before = touches before') (ha : touches after = touches after') :
    spell before after = spell before' after' := by
  rw [spell, spell, hb, ha]

theorem lastOfSpell_congr {after after' : Option Char} (h : touches after = touches after') :
    lastOfSpell after = lastOfSpell after' := by
  rw [lastOfSpell, lastOfSpell, h]

theorem touches_space : touches (some ' ') = false := by decide

theorem touches_ampersand : touches (some '&') = false := by decide

theorem touches_of_isBlank {c : Char} (h : isBlank c = true) : touches (some c) = false :=
  isAlphanumeric_of_isBlank h

/-- The word itself starts with a letter, unless a space keeps it off. -/
theorem touches_head?_spell (before after : Option Char) (u : Text) :
    touches (spell before after ++ u).head? = !touches before := by
  cases h : touches before with
  | true => simpa [spell, h] using touches_space
  | false =>
    have ha : touches (some 'a') = true := by decide
    simpa [spell, h] using ha

theorem any_isBlank_of_touches {last : Option Char} (h : touches last = true) :
    last.any isBlank = false := by
  cases last with
  | none => rfl
  | some c =>
    cases hb : isBlank c with
    | false => simpa using hb
    | true => simp [touches_of_isBlank hb] at h

theorem touches_of_any_isBlank {last : Option Char} (h : last.any isBlank = true) :
    touches last = false := by
  cases ht : touches last with
  | false => rfl
  | true => simp [any_isBlank_of_touches ht] at h

namespace Spelling

variable {last : Option Char} {t u v : Text}

/-- A letter or a digit is kept. -/
theorem touches_head (h : Spelling last t u) (ht : touches t.head? = true) :
    touches u.head? = true := by
  cases h with
  | nil => exact ht
  | char c _ => exact ht
  | space hb _ => simp [touches_of_isBlank hb] at ht
  | drop hb _ _ => simp [touches_of_isBlank hb] at ht
  | word _ => simp [touches_ampersand] at ht

/-- After a letter or a digit nothing is dropped, and a word is kept off by a space. -/
theorem touches_head?_eq (h : Spelling last t u) (hl : touches last = true) :
    touches u.head? = touches t.head? := by
  cases h with
  | nil => rfl
  | char c _ => rfl
  | space hb _ => exact touches_space.trans (touches_of_isBlank hb).symm
  | drop _ hlast _ => simp [any_isBlank_of_touches hl] at hlast
  | word _ =>
    rw [touches_head?_spell, hl]
    exact touches_ampersand.symm

/-- A run of blanks is dropped after another blank. -/
theorem drop_append {w : Text} (hw : ∀ c ∈ w, isBlank c = true) (hl : last.any isBlank = true)
    (h : Spelling last t u) : Spelling last (w ++ t) u := by
  induction w with
  | nil => exact h
  | cons c w ih =>
    refine .drop (hw c (List.mem_cons_self ..)) hl (ih ?_)
    exact fun c' hc' => hw c' (List.mem_cons_of_mem c hc')

/-! ## Two spellings in turn -/

/-- What is neither blank nor an ampersand is kept. -/
theorem exists_char {c : Char} (h : Spelling last (c :: t) v) (hb : isBlank c = false)
    (ha : c ≠ '&') : ∃ w, v = c :: w ∧ Spelling (some c) t w := by
  cases h with
  | char _ h => exact ⟨_, rfl, h⟩
  | space hc _ => simp [hb] at hc
  | drop hc _ _ => simp [hb] at hc
  | word _ => exact absurd rfl ha

/-- A space is kept where no blank stands before it. -/
theorem exists_space (h : Spelling last (' ' :: t) v) (hl : last.any isBlank = false) :
    ∃ w, v = ' ' :: w ∧ Spelling (some ' ') t w := by
  cases h with
  | char _ h => exact ⟨_, rfl, h⟩
  | space _ h => exact ⟨_, rfl, h⟩
  | drop _ hlast _ => simp [hl] at hlast

theorem exists_letters (h : Spelling last ('a' :: 'n' :: 'd' :: t) v) :
    ∃ w, v = 'a' :: 'n' :: 'd' :: w ∧ Spelling (some 'd') t w := by
  obtain ⟨v₁, rfl, h₁⟩ := h.exists_char (by decide) (by decide)
  obtain ⟨v₂, rfl, h₂⟩ := h₁.exists_char (by decide) (by decide)
  obtain ⟨v₃, rfl, h₃⟩ := h₂.exists_char (by decide) (by decide)
  exact ⟨v₃, rfl, h₃⟩

/-- The space behind a word is kept, and so is what made it necessary. -/
theorem exists_behind
    (h : Spelling (some 'd') ((if touches u.head? then [' '] else []) ++ u) v) :
    ∃ w, v = (if touches w.head? then [' '] else []) ++ w ∧ touches w.head? = touches u.head? ∧
      Spelling (some (lastOfSpell u.head?)) u w := by
  cases hu : touches u.head? with
  | true =>
    rw [hu, if_pos rfl, List.singleton_append] at h
    obtain ⟨w, rfl, hw⟩ := h.exists_space (by decide)
    have htouches := hw.touches_head hu
    rw [lastOfSpell, if_pos hu]
    exact ⟨w, by simp [htouches], htouches, hw⟩
  | false =>
    rw [hu, if_neg Bool.false_ne_true, List.nil_append] at h
    have htouches := h.touches_head?_eq (by decide)
    rw [hu] at htouches
    rw [lastOfSpell, hu, if_neg Bool.false_ne_true]
    exact ⟨v, by simp [htouches], htouches, h⟩

/-- A word is kept with its spaces. -/
theorem exists_word (h : Spelling last (spell last u.head? ++ u) v) :
    ∃ w, v = spell last w.head? ++ w ∧ touches w.head? = touches u.head? ∧
      Spelling (some (lastOfSpell u.head?)) u w := by
  rw [spell, List.append_assoc, List.append_assoc] at h
  cases hl : touches last with
  | true =>
    rw [hl, if_pos rfl, List.singleton_append] at h
    obtain ⟨v₁, rfl, h₁⟩ := h.exists_space (any_isBlank_of_touches hl)
    obtain ⟨v₂, rfl, h₂⟩ := h₁.exists_letters
    obtain ⟨w, rfl, hw, h₃⟩ := h₂.exists_behind
    exact ⟨w, by simp [spell, hl], hw, h₃⟩
  | false =>
    rw [hl, if_neg Bool.false_ne_true, List.nil_append] at h
    obtain ⟨v₁, rfl, h₁⟩ := h.exists_letters
    obtain ⟨w, rfl, hw, h₂⟩ := h₁.exists_behind
    exact ⟨w, by simp [spell, hl], hw, h₂⟩

/-- A spelling of a spelling, where the texts so far end in different characters: the first one in
`last`, the second one in `last'`. They differ only in blanks, or where the second one has spelled
an ampersand out. -/
theorem trans_of_last {last' : Option Char} (h : Spelling last t u) (h' : Spelling last' u v)
    (hb : last.any isBlank = true → last'.any isBlank = true)
    (ht : touches last = touches last' ∨ touches last = false ∧ touches v.head? = false) :
    Spelling last' t v := by
  induction h generalizing last' v with
  | nil => exact h'
  | char c _ ih =>
    cases h' with
    | char _ h' => exact .char c (ih h' id (.inl rfl))
    | space hc h' => exact .space hc (ih h' (fun _ => rfl) (.inl (touches_of_isBlank hc)))
    | drop hc hlast h' =>
      refine .drop hc hlast (ih h' (fun _ => hlast) (.inl ?_))
      rw [touches_of_isBlank hc, touches_of_any_isBlank hlast]
    | @word _ _ v h' =>
      refine .word (ih h' (fun hc => absurd hc (by decide)) ?_)
      cases hv : touches v.head? with
      | true => exact .inl (by rw [lastOfSpell, if_pos hv]; decide)
      | false => exact .inr ⟨touches_ampersand, rfl⟩
  | space hc _ ih =>
    cases h' with
    | char _ h' => exact .space hc (ih h' id (.inl rfl))
    | space _ h' => exact .space hc (ih h' id (.inl rfl))
    | drop _ hlast h' =>
      refine .drop hc hlast (ih h' (fun _ => hlast) (.inl ?_))
      rw [touches_space, touches_of_any_isBlank hlast]
  | drop hc hlast _ ih => exact .drop hc (hb hlast) (ih h' hb ht)
  | @word last t u _ ih =>
    rcases ht with ht | ⟨hlast, hv⟩
    · rw [spell_congr ht rfl] at h'
      obtain ⟨w, rfl, hw, hrest⟩ := h'.exists_word
      refine .word ?_
      rw [lastOfSpell_congr hw]
      exact ih hrest id (.inl rfl)
    · -- The word starts with a letter here, and the second text keeps it.
      have hhead := h'.touches_head (by rw [touches_head?_spell, hlast]; rfl)
      simp [hv] at hhead

/-- A text that spells a spelling spells its source. -/
theorem trans (h : Spelling last t u) (h' : Spelling last u v) : Spelling last t v :=
  h.trans_of_last h' id (.inl rfl)

/-! ## Escapes -/

theorem head?_of_ampersand (h : Spelling last t ('&' :: u)) (hl : last.any isBlank = false) :
    ∃ w, t = '&' :: w := by
  generalize hv : '&' :: u = v at h
  cases h with
  | nil => simp at hv
  | char c _ => exact ⟨_, by rw [(List.cons.inj hv).1]⟩
  | space _ _ => simp at hv
  | drop _ hlast _ => simp [hl] at hlast
  | word _ => exact ⟨_, rfl⟩

/-- An ampersand directly behind a backslash stands there in the source. -/
theorem escaped_in_source (h : Spelling last t u) (hu : ['\x5c', '&'] <:+: u) :
    ['\x5c', '&'] <:+: t := by
  induction h with
  | nil => exact hu
  | @char _ c t u h ih =>
    rw [List.infix_cons_iff, List.cons_prefix_cons] at hu
    rcases hu with ⟨rfl, w, rfl⟩ | hu
    · obtain ⟨r, rfl⟩ := h.head?_of_ampersand (by decide)
      exact ⟨[], r, rfl⟩
    · exact List.infix_cons (ih hu)
  | space _ _ ih =>
    refine List.infix_cons (ih ?_)
    exact infix_of_append_left (u := [' ']) (by decide) hu
  | drop _ _ _ ih => exact List.infix_cons (ih hu)
  | word _ ih =>
    refine List.infix_cons (ih (infix_of_append_left ?_ hu))
    exact fun h => absurd (mem_spell h) (by decide)

end Spelling

/-! ## Pieces -/

/-- The space on one side of a word, if there is one. -/
def pad (present : Bool) : Text := if present then [' '] else []

/-- What a text holds for one character of its source. -/
inductive Piece
  /-- The character itself. -/
  | char (c : Char)
  /-- A blank, written as a space or not at all. -/
  | blank (c : Char) (written : Bool) (isBlank_eq : isBlank c = true)
  /-- The word for an ampersand, with or without a space on each side. -/
  | word (before after : Bool)

/-- The character of the source. -/
def Piece.read : Piece → Char
  | char c => c
  | blank c _ _ => c
  | word _ _ => '&'

/-- What is written for it. -/
def Piece.written : Piece → Text
  | char c => [c]
  | blank _ written _ => pad written
  | word before after => pad before ++ "and".toList ++ pad after

/-- No word among the pieces touches a letter or a digit on either side, where `last` is the
character written directly before them. -/
def Apart (last : Option Char) (pieces : List Piece) : Prop :=
  ∀ front before after rest, pieces = front ++ .word before after :: rest →
    touches ((front.flatMap Piece.written ++ pad before).getLast?.or last) = false ∧
      touches (pad after ++ rest.flatMap Piece.written).head? = false

theorem Apart.cons {last last' : Option Char} {piece : Piece} {pieces : List Piece}
    (hlast : piece.written.getLast?.or last = last') (h : Apart last' pieces)
    (hpiece : ∀ before after, piece = .word before after →
      touches ((pad before).getLast?.or last) = false ∧
        touches (pad after ++ pieces.flatMap Piece.written).head? = false) :
    Apart last (piece :: pieces) := by
  subst hlast
  intro front before after rest hsplit
  cases front with
  | nil =>
    obtain ⟨rfl, rfl⟩ := List.cons.inj hsplit
    exact hpiece before after rfl
  | cons first front =>
    obtain ⟨rfl, rfl⟩ := List.cons.inj hsplit
    have hword := h front before after rest rfl
    rwa [← Option.or_assoc, ← List.getLast?_append, ← List.append_assoc, ← List.flatMap_cons]
      at hword

/-- A spelling is made of pieces in which words stand apart. -/
theorem Spelling.exists_pieces {last : Option Char} {t u : Text} (h : Spelling last t u) :
    ∃ pieces, pieces.map Piece.read = t ∧ pieces.flatMap Piece.written = u ∧ Apart last pieces := by
  induction h with
  | nil last => exact ⟨[], rfl, rfl, by simp [Apart]⟩
  | char c _ ih =>
    obtain ⟨pieces, rfl, rfl, hapart⟩ := ih
    exact ⟨.char c :: pieces, rfl, rfl, hapart.cons rfl (by simp)⟩
  | @space _ c _ _ hc _ ih =>
    obtain ⟨pieces, rfl, rfl, hapart⟩ := ih
    exact ⟨.blank c true hc :: pieces, rfl, rfl, hapart.cons rfl (by simp)⟩
  | @drop _ c _ _ hc _ _ ih =>
    obtain ⟨pieces, rfl, rfl, hapart⟩ := ih
    exact ⟨.blank c false hc :: pieces, rfl, rfl, hapart.cons rfl (by simp)⟩
  | @word last t u _ ih =>
    obtain ⟨pieces, rfl, rfl, hapart⟩ := ih
    refine ⟨.word (touches last) (touches (pieces.flatMap Piece.written).head?) :: pieces,
      rfl, rfl, hapart.cons ?_ ?_⟩
    · change (spell last (pieces.flatMap Piece.written).head?).getLast?.or last = _
      rw [getLast?_spell]
      rfl
    · rintro before after hword
      obtain ⟨rfl, rfl⟩ := Piece.word.inj hword
      constructor
      · cases hl : touches last with
        | true => exact touches_space
        | false => simpa [pad] using hl
      · cases hu : touches (pieces.flatMap Piece.written).head? with
        | true => exact touches_space
        | false => simpa [pad] using hu

end DiagramStudio.Ampersand
