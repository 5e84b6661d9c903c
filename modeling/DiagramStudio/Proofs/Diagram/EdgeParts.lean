import DiagramStudio.Proofs.Diagram.Spelling

/-!
# The parts of a line

A line splits in one way into the labels on its edges and the characters outside them. A pipe
opens a label if the text before it ends an arrow and another pipe follows; that next pipe closes
the label and opens none itself. The pass over a line writes it part by part: characters outside
labels as they are, and each label with its ampersands spelled out.

All of this is said of the line as it was read. The pass looks back at what it has written instead,
which comes to the same: the only characters it ever changes stand in labels, and the pipe behind a
label is the last character that the next decision sees of it.

## Main definitions

- `EdgeLabel.OpensLabel`: the places of a line at which a pipe opens a label
- `EdgeLabel.Split`: the parts of a line
- `EdgeLabel.respelled`: a label as the pass writes it
-/

namespace DiagramStudio.EdgeLabel

open Text Ampersand

/-- What a line consists of. -/
inductive Part
  /-- A character outside all labels. -/
  | outside (c : Char)
  /-- A label, without its pipes. -/
  | label (body : Text)
  deriving Repr, DecidableEq

/-- A pipe between `front` and `rest` opens a label: the last character before it that is no blank
ends an arrow, and another pipe follows. -/
def OpensLabel (front rest : Text) : Prop :=
  (trimEnd front).getLast?.any endsArrow = true ∧ '|' ∈ rest

instance (front rest : Text) : Decidable (OpensLabel front rest) :=
  inferInstanceAs (Decidable (_ ∧ _))

/-- `Split front t parts` says that `t` consists of `parts`, where `front` stands before it in the
line. -/
inductive Split : Text → Text → List Part → Prop
  | nil {front : Text} : Split front [] []
  | outside {front t : Text} {c : Char} {parts : List Part} :
      (c = '|' → ¬ OpensLabel front t) → Split (front ++ [c]) t parts →
      Split front (c :: t) (.outside c :: parts)
  | label {front body t : Text} {parts : List Part} :
      '|' ∉ body → OpensLabel front (body ++ '|' :: t) →
      Split (front ++ '|' :: (body ++ ['|'])) t parts →
      Split front ('|' :: (body ++ '|' :: t)) (.label body :: parts)

/-- What is written for the character `c` of a label, where `written` has been written before it and
`after` comes next in the label. The word for an ampersand keeps off letters and digits. -/
def respelling (written : Text) (c : Char) (after : Option Char) : Text :=
  if c = '&' then
    pad (written.getLast?.any isAlphanumeric) ++ "and".toList ++ pad (after.any isAlphanumeric)
  else [c]

/-- What is written for the rest of a label. -/
def respelled (written : Text) : Text → Text
  | [] => []
  | c :: rest =>
    respelling written c rest.head? ++ respelled (written ++ respelling written c rest.head?) rest

/-- What is written for a part. -/
def Part.written : Part → Text
  | outside c => [c]
  | label body => '|' :: (respelled ['|'] body ++ ['|'])

/-! ## A line splits in one way -/

theorem Split.unique {front t : Text} {parts parts' : List Part} (h : Split front t parts)
    (h' : Split front t parts') : parts' = parts := by
  induction h generalizing parts' with
  | nil =>
    cases h'
    rfl
  | outside hc _ ih =>
    cases h' with
    | outside _ h' => rw [ih h']
    | label _ hopens _ => exact absurd hopens (hc rfl)
  | @label front body t parts hbody hopens _ ih =>
    -- The label ends at the first pipe, which a cut finds.
    have hcut := cut?_append_cons hbody t
    generalize hrest : body ++ '|' :: t = rest at h' hopens hcut
    cases h' with
    | outside hc _ => exact absurd hopens (hc rfl)
    | label hbody' _ h' =>
      rw [cut?_append_cons hbody', Option.some.injEq, Prod.mk.injEq] at hcut
      obtain ⟨rfl, rfl⟩ := hcut
      rw [ih h']

/-! ## The pass writes the parts -/

theorem respelling_ampersand (written : Text) (after : Option Char) :
    respelling written '&' after = spell written.getLast? after := rfl

theorem respelling_of_ne {c : Char} (hc : c ≠ '&') (written : Text) (after : Option Char) :
    respelling written c after = [c] := if_neg hc

/-- Inside a label the pass writes each character as it is respelled, up to the closing pipe. -/
theorem spellFrom_label {body : Text} (hbody : '|' ∉ body) {written : Text} {last : Char}
    (hlast : written.getLast? = some last) (t : Text) :
    spellFrom (.label last) (body ++ '|' :: t) =
      respelled written body ++ '|' :: spellFrom (.between (some '|')) t := by
  induction body generalizing written last with
  | nil =>
    rw [List.nil_append, spellFrom, if_pos rfl]
    rfl
  | cons c body ih =>
    rw [List.mem_cons, not_or] at hbody
    have hpipe : c ≠ '|' := Ne.symm hbody.1
    -- The closing pipe is no letter or digit, so it may stand for the end of the label.
    have hafter : touches (body ++ '|' :: t).head? = touches body.head? := by
      cases body with
      | nil =>
        show touches (some '|') = touches none
        decide
      | cons c' body => rfl
    rw [List.cons_append, spellFrom, if_neg hpipe, respelled]
    by_cases hc : c = '&'
    · subst hc
      have hspell : spell (some last) (body ++ '|' :: t).head? =
          respelling written '&' body.head? := by
        rw [respelling_ampersand, hlast, spell_congr rfl hafter]
      have hlast' : (written ++ respelling written '&' body.head?).getLast? =
          some (lastOfSpell body.head?) := by
        rw [respelling_ampersand, List.getLast?_append_of_ne_nil _ (Span.spell_ne_nil _ _),
          Span.getLast?_spell]
      rw [if_pos rfl, hspell, lastOfSpell_congr hafter, ih hbody.2 hlast', List.append_assoc]
    · rw [if_neg hc, respelling_of_ne hc, ih hbody.2 List.getLast?_concat]
      rfl

/-- Between labels the pass knows the last character of the line so far that is no blank, and from
there on it writes the parts of the rest. -/
theorem exists_split (front t : Text) :
    ∃ parts, Split front t parts ∧
      spellFrom (.between (trimEnd front).getLast?) t = parts.flatMap Part.written := by
  match t with
  | [] => exact ⟨[], .nil, rfl⟩
  | c :: t =>
    by_cases h : c = '|' ∧ OpensLabel front t
    · obtain ⟨rfl, hopens⟩ := h
      obtain ⟨body, u, ht, hbody⟩ := List.eq_append_cons_of_mem hopens.2
      obtain ⟨parts, hparts, hwritten⟩ := exists_split (front ++ '|' :: (body ++ ['|'])) u
      have hclosed : (trimEnd (front ++ '|' :: (body ++ ['|']))).getLast? = some '|' := by
        rw [← List.cons_append, ← List.append_assoc, getLast?_trimEnd_append_singleton]
        rfl
      have hopened : (['|'] : Text).getLast? = some '|' := rfl
      refine ⟨.label body :: parts, ht ▸ .label hbody (ht ▸ hopens) hparts, ?_⟩
      rw [spellFrom, if_pos rfl, if_pos (by simpa [OpensLabel] using hopens), ht,
        spellFrom_label hbody hopened, ← hclosed, hwritten, List.flatMap_cons]
      simp [Part.written]
    · obtain ⟨parts, hparts, hwritten⟩ := exists_split (front ++ [c]) t
      refine ⟨.outside c :: parts, .outside (fun hc hopens => h ⟨hc, hopens⟩) hparts, ?_⟩
      rw [List.flatMap_cons, ← hwritten, getLast?_trimEnd_append_singleton, spellFrom]
      split
      · next hc =>
        rw [if_neg (by simpa [OpensLabel] using fun harrow hmem => h ⟨hc, harrow, hmem⟩), hc]
        rfl
      · rfl
termination_by t.length
decreasing_by
  · simp only [ht, List.length_append, List.length_cons]
    omega
  · simp

/-- The pass over a line writes the parts of the line as it was read, one after the other. -/
theorem spellOut_eq_flatMap_written (line : Text) :
    ∃ parts, Split [] line parts ∧ (∀ parts', Split [] line parts' → parts' = parts) ∧
      spellOut line = parts.flatMap Part.written := by
  obtain ⟨parts, hparts, hwritten⟩ := exists_split [] line
  exact ⟨parts, hparts, fun _ h => hparts.unique h, hwritten⟩

/-- A label may end like an arrow, and the pipe behind it still opens nothing. -/
example : spellOut "A & B -->|x&>| C &|R&D| --|&&| D".toList =
    "A & B -->|x and>| C &|R&D| --|and and| D".toList := by decide +kernel

end DiagramStudio.EdgeLabel
