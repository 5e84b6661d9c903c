import DiagramStudio.Proofs.Diagram.Braces

/-!
# Braces of class diagrams

The fold over a class diagram writes class bodies with braces of its own and counts the other scopes
by the last characters of their lines. What it writes is balanced if each line holds the braces that
are counted for it (`wellPlaced`); a body on the line of its class does not, and loses the brace
that closes it. After the fold only alignment can take a brace away, with the lines before the
directive.

The invariant of the fold is that it never has more braces open than the source: only then is every
brace that the source closes open in what was written.

## Main definitions

- `ClassBlock.wellPlaced`: a line with the braces that the fold counts for it
- `ClassBlock.State.depth`: the braces that a state has open
- `ClassBlock.State.Even`: the open class is balanced as it will be written
-/

namespace DiagramStudio

open Text Braces

namespace ClassBlock

/-- How many scopes the fold counts for a statement: one if the statement ends in a brace. -/
def opened (line : Text) : Nat := if line.getLast? = some '{' then 1 else 0

/-- True of a line that opens and closes the braces that the fold counts for it. -/
def wellPlaced (s : State) (line : Text) : Bool :=
  match LineKind.of line, s.block with
  | .header _, _ | .bare _, _ | .closer, _ => true
  | .directive, _ | .aside, _ | .member, some _ => level 0 line == some 0
  -- A line that is dropped may open more braces than it closes.
  | .other, some _ => (level 0 line).isSome
  | .otherClass, _ | .member, none | .other, none => level 0 line == some (opened line)

/-- True of lines that are well placed one after the other, from state `s` on. -/
def wellPlacedFrom : State → List Text → Bool
  | _, [] => true
  | s, line :: rest => wellPlaced s line && wellPlacedFrom (step s line).1 rest

/-- How many braces a state has open. -/
def State.depth (s : State) : Nat := s.scopes + if s.block.isSome then 1 else 0

/-- A state whose open class will be written with balanced braces. -/
def State.Even (s : State) : Prop :=
  ∀ block ∈ s.block, isClassName block.name = true ∧ ∀ line ∈ block.members, level 0 line = some 0

/-! ## The lines that the fold writes -/

theorem scopesAfter_eq (s : State) (line : Text) : s.scopesAfter line = s.scopes + opened line := by
  rw [State.scopesAfter, opened]
  split <;> rfl

theorem braces_statement (line : Text) : braces (statement line) = braces line := by
  rw [statement, braces_append]
  rfl

theorem braces_memberLine (line : Text) : braces (memberLine line) = braces line := by
  rw [memberLine, braces_append]
  rfl

theorem braces_className {name : Text} (h : isClassName name = true) : braces name = [] :=
  braces_of_forall fun _ hc => (of_mem_className h hc).2

theorem braces_bare {name : Text} (h : isClassName name = true) :
    braces (statement ("class ".toList ++ name)) = [] := by
  rw [braces_statement, braces_append, braces_className h]
  rfl

theorem braces_of_kind_header {line name : Text} (h : LineKind.of line = .header name) :
    braces line = ['{'] := by
  obtain ⟨hname, w, v, u, hw, hv, hu, rfl⟩ := eq_of_kind_header h
  rw [← List.singleton_append (l := u), braces_append, braces_append, braces_append, braces_append,
    braces_append, braces_of_blank hw, braces_className hname, braces_of_blank hv,
    braces_of_blank hu]
  rfl

theorem braces_of_kind_bare {line name : Text} (h : LineKind.of line = .bare name) :
    braces line = [] := by
  obtain ⟨hname, w, v, hw, hv, rfl⟩ := eq_of_kind_bare h
  rw [braces_append, braces_append, braces_append, braces_of_blank hw, braces_className hname,
    braces_of_blank hv]
  rfl

theorem level_members {members : List Text} (h : ∀ line ∈ members, level 0 line = some 0)
    (n : Nat) : level n (members.flatMap braces) = some n := by
  induction members with
  | nil => rfl
  | cons line members ih =>
    rw [List.forall_mem_cons] at h
    rw [List.flatMap_cons, level_append, level_braces, level_of_level_zero h.1]
    exact ih h.2

/-- A class is written with balanced braces if its members have them. -/
theorem level_written {block : OpenClass} (hname : isClassName block.name = true)
    (hmembers : ∀ line ∈ block.members, level 0 line = some 0) (n : Nat) :
    level n (block.written.flatMap braces) = some n := by
  rw [OpenClass.written]
  split
  · rw [List.flatMap_cons, braces_bare hname]
    simp
  · have hheader : braces (statement ("class ".toList ++ block.name ++ [' ', '{'])) = ['{'] := by
      rw [braces_statement, braces_append, braces_append, braces_className hname]
      rfl
    have hlines : (block.members.map memberLine).flatMap braces = block.members.flatMap braces := by
      simp only [List.flatMap_map, braces_memberLine]
    rw [List.flatMap_append, List.flatMap_cons, hheader, hlines, level_append, level_append]
    simp only [level_cons, after, level_nil, Option.bind_some, if_true, level_members hmembers]
    rfl

theorem State.Even.level_flushed {s : State} (h : s.Even) (n : Nat) :
    level n (s.flushed.flatMap braces) = some n := by
  rw [State.flushed]
  cases hblock : s.block with
  | none => rfl
  | some block =>
    obtain ⟨hname, hmembers⟩ := h block hblock
    exact level_written hname hmembers n

theorem level_statement {line : Text} (h : level 0 line = some (opened line)) (s : State) :
    level s.scopes ([statement line].flatMap braces) = some (s.scopesAfter line) := by
  rw [List.flatMap_singleton, braces_statement, level_braces, level_of_level_zero h, scopesAfter_eq]

/-! ## The fold keeps braces balanced -/

theorem even_none (n : Nat) : State.Even ⟨none, n⟩ := by
  intro block hblock
  simp at hblock

theorem depth_none (n : Nat) : State.depth ⟨none, n⟩ = n := rfl

theorem depth_some (block : OpenClass) (n : Nat) : State.depth ⟨some block, n⟩ = n + 1 := rfl

theorem scopes_le_depth (s : State) : s.scopes ≤ s.depth := Nat.le_add_right ..

/-- The braces written in a step are those of the scopes that the fold counts, and the depth of the
state stays below that of the source. -/
theorem level_step {s : State} {line : Text} {n m : Nat} (hs : s.Even)
    (hline : wellPlaced s line = true) (hn : s.depth ≤ n) (hm : level n line = some m) :
    (step s line).1.Even ∧ (step s line).1.depth ≤ m ∧
      level s.scopes ((step s line).2.flatMap braces) = some (step s line).1.scopes := by
  have hscopes := scopes_le_depth s
  have hflushed := hs.level_flushed s.scopes
  have hmoves : ∀ k, level 0 line = some k → m = n + k := by
    intro k hk
    rw [level_of_level_zero hk, Option.some.injEq] at hm
    exact hm.symm
  -- A line that pairs its own braces leaves the depth of the source as it is.
  have hneutral : level 0 line = some 0 →
      s.depth ≤ m ∧ level s.scopes (braces line) = some s.scopes := by
    intro h
    rw [hmoves 0 h, level_braces, level_of_level_zero h]
    exact ⟨hn, rfl⟩
  -- A statement counts for as many scopes as it opens braces.
  have hstatement : level 0 line = some (opened line) →
      s.scopesAfter line ≤ m ∧
        level s.scopes ([statement line].flatMap braces) = some (s.scopesAfter line) := by
    intro h
    refine ⟨?_, level_statement h s⟩
    rw [hmoves _ h, scopesAfter_eq]
    omega
  rw [step]
  cases hkind : LineKind.of line with
  | directive =>
    obtain ⟨hdepth, hlevel⟩ := hneutral (by simpa [wellPlaced, hkind] using hline)
    refine ⟨hs, hdepth, ?_⟩
    rwa [List.flatMap_singleton]
  | aside =>
    obtain ⟨hdepth, hlevel⟩ := hneutral (by simpa [wellPlaced, hkind] using hline)
    refine ⟨hs, hdepth, ?_⟩
    rwa [List.flatMap_singleton, braces_statement]
  | header name =>
    have hone : level 0 line = some 1 := by
      rw [← level_braces, braces_of_kind_header hkind]
      rfl
    refine ⟨?_, ?_, hflushed⟩
    · intro block hblock
      obtain rfl := Option.some.inj hblock
      exact ⟨(eq_of_kind_header hkind).1, by simp⟩
    · rw [depth_some, hmoves 1 hone]
      omega
  | bare name =>
    have hzero : level 0 line = some 0 := by
      rw [← level_braces, braces_of_kind_bare hkind]
      rfl
    refine ⟨even_none _, Nat.le_trans hscopes (hneutral hzero).1, ?_⟩
    rw [List.flatMap_append, level_append, hflushed, List.flatMap_singleton,
      braces_bare (eq_of_kind_bare hkind).1]
    rfl
  | otherClass =>
    obtain ⟨hdepth, hlevel⟩ := hstatement (by simpa [wellPlaced, hkind] using hline)
    refine ⟨even_none _, hdepth, ?_⟩
    rw [List.flatMap_append, level_append, hflushed]
    exact hlevel
  | closer =>
    obtain rfl := eq_of_kind_closer hkind
    obtain ⟨hpos, rfl⟩ : n ≠ 0 ∧ n - 1 = m := by simpa [level_cons, after] using hm
    cases hblock : s.block with
    | some block =>
      have hdepth : s.depth = s.scopes + 1 := by rw [State.depth, hblock]; rfl
      refine ⟨even_none _, ?_, hflushed⟩
      rw [depth_none]
      omega
    | none =>
      have hdepth : s.depth = s.scopes := by rw [State.depth, hblock]; rfl
      dsimp only
      split
      · next hzero =>
        refine ⟨hs, ?_, rfl⟩
        dsimp only
        omega
      · next hne =>
        refine ⟨even_none _, ?_, ?_⟩
        · rw [depth_none]
          omega
        · rw [List.flatMap_singleton, braces_statement, level_braces]
          simp [level_cons, after, hne]
  | member =>
    cases hblock : s.block with
    | none =>
      obtain ⟨hdepth, hlevel⟩ := hstatement (by simpa [wellPlaced, hkind, hblock] using hline)
      exact ⟨even_none _, hdepth, hlevel⟩
    | some block =>
      have hzero : level 0 line = some 0 := by simpa [wellPlaced, hkind, hblock] using hline
      obtain ⟨hname, hmembers⟩ := hs block hblock
      refine ⟨?_, ?_, rfl⟩
      · intro block' hblock'
        obtain rfl := Option.some.inj hblock'
        exact ⟨hname, List.forall_mem_append.2 ⟨hmembers, by simpa using hzero⟩⟩
      · simpa [State.depth, hblock] using (hneutral hzero).1
  | other =>
    cases hblock : s.block with
    | none =>
      obtain ⟨hdepth, hlevel⟩ := hstatement (by simpa [wellPlaced, hkind, hblock] using hline)
      exact ⟨even_none _, hdepth, hlevel⟩
    | some block =>
      obtain ⟨k, hk⟩ : ∃ k, level 0 line = some k := by
        simpa [wellPlaced, hkind, hblock, Option.isSome_iff_exists] using hline
      refine ⟨hs, ?_, rfl⟩
      rw [hmoves k hk]
      exact Nat.le_trans hn (Nat.le_add_right n k)

/-- From a state that is not deeper than the source the fold closes exactly the scopes that are
open, if the rest of the source closes all its braces. -/
theorem level_run {s : State} {pieces : List Text} {n : Nat} (hs : s.Even)
    (h : wellPlacedFrom s pieces = true) (hn : s.depth ≤ n)
    (hlevel : level n (pieces.flatMap braces) = some 0) :
    level s.scopes ((run s pieces).flatMap braces) = some 0 := by
  induction pieces generalizing s n with
  | nil =>
    obtain rfl : n = 0 := Option.some.inj hlevel
    have hscopes := scopes_le_depth s
    rw [run, hs.level_flushed]
    congr 1
    omega
  | cons line pieces ih =>
    rw [wellPlacedFrom, Bool.and_eq_true] at h
    rw [List.flatMap_cons, level_append, level_braces, Option.bind_eq_some_iff] at hlevel
    obtain ⟨m, hm, hlevel⟩ := hlevel
    obtain ⟨heven, hdepth, hwritten⟩ := level_step hs h.1 hn hm
    rw [run, List.flatMap_append, level_append, hwritten]
    exact ih heven h.2 hdepth hlevel

theorem braces_inkedLines (code : Text) : (inkedLines code).flatMap braces = braces code := by
  have hpieces : ∀ pieces : List Text,
      ((pieces.map trim).filter fun line => !line.isEmpty).flatMap braces =
        pieces.flatMap braces := by
    intro pieces
    induction pieces with
    | nil => rfl
    | cons piece pieces ih =>
      rw [List.map_cons, List.filter_cons, List.flatMap_cons, ← braces_trim]
      split
      · rw [List.flatMap_cons, ih]
      · next hempty =>
        have hnil : trim piece = [] := by simpa using hempty
        rw [hnil, ih]
        rfl
  rw [inkedLines_eq, hpieces, ← braces_joinLines, joinLines_segmentLines]

/-- Rebuilding keeps braces balanced where they are well placed. -/
theorem balanced_rebuild {source : Text} (h : Balanced source)
    (hplaced : wellPlacedFrom .start (inkedLines source) = true) : Balanced (rebuild source) := by
  rw [balanced_iff, ← level_braces] at h ⊢
  rw [← braces_inkedLines] at h
  rw [rebuild, braces_joinLines]
  exact level_run (even_none 0) hplaced (Nat.le_refl 0) h

end ClassBlock

namespace Repair

open ClassBlock Layout

/-- Of a class diagram whose braces are balanced and well placed the repaired diagram has balanced
braces exactly if the lines before the directive have. -/
theorem balanced_repair_iff {code : Text} (hkind : Dialect.detect? (source code) = some .classes)
    (hbalanced : Balanced (source code))
    (hplaced : wellPlacedFrom .start (inkedLines (source code)) = true) :
    Balanced (repair code) ↔
      Balanced (joinLines (preamble (compactLines (some .classes) (source code)))) := by
  have hlines := braces_compactLines (some .classes) (source code)
  rw [← preamble_append_align (compactLines _ _), List.flatMap_append] at hlines
  have hrebuilt := balanced_iff.1 (balanced_rebuild hbalanced hplaced)
  rw [rebuilt, if_pos rfl] at hlines
  rw [← level_braces, ← hlines, level_append, Option.bind_eq_some_iff] at hrebuilt
  obtain ⟨n, hpreamble, hrest⟩ := hrebuilt
  rw [balanced_iff, balanced_iff, ← level_braces 0 (repair code), braces_repair, hkind,
    ← level_braces 0 (joinLines _), braces_joinLines, hpreamble]
  constructor
  · intro h
    -- The rest of the diagram cannot close what it does not open.
    rw [level_of_level_zero h, Nat.add_zero] at hrest
    exact hrest
  · intro h
    obtain rfl := Option.some.inj h
    exact hrest

theorem balanced_repair_iff_namespace :
    Dialect.detect? (source "classDiagram\nnamespace N \x7b\nclass A \x7b\na: int\n\x7d\n\x7d".toList) =
        some .classes ∧
      Balanced (source "classDiagram\nnamespace N \x7b\nclass A \x7b\na: int\n\x7d\n\x7d".toList) ∧
      wellPlacedFrom .start (inkedLines
        (source "classDiagram\nnamespace N \x7b\nclass A \x7b\na: int\n\x7d\n\x7d".toList)) = true ∧
      (Balanced (repair "classDiagram\nnamespace N \x7b\nclass A \x7b\na: int\n\x7d\n\x7d".toList) ↔
        Balanced (joinLines (preamble (compactLines (some .classes)
          (source "classDiagram\nnamespace N \x7b\nclass A \x7b\na: int\n\x7d\n\x7d".toList))))) := by
  have hkind : Dialect.detect?
      (source "classDiagram\nnamespace N \x7b\nclass A \x7b\na: int\n\x7d\n\x7d".toList) =
        some .classes := by decide +kernel
  have hbalanced : Balanced
      (source "classDiagram\nnamespace N \x7b\nclass A \x7b\na: int\n\x7d\n\x7d".toList) :=
    balanced_iff.2 (by decide +kernel)
  have hplaced : wellPlacedFrom .start (inkedLines
      (source "classDiagram\nnamespace N \x7b\nclass A \x7b\na: int\n\x7d\n\x7d".toList)) = true := by
    decide +kernel
  exact ⟨hkind, hbalanced, hplaced, balanced_repair_iff hkind hbalanced hplaced⟩

/-- A body on the line of its class counts for no scope, so the brace that closes it is lost. -/
theorem not_balanced_repair :
    ¬ ∀ code, Dialect.detect? (source code) = some .classes → Balanced (source code) →
      Balanced (repair code) := by
  intro h
  have hkind : Dialect.detect? (source "classDiagram\nclass Foo \x7b +int id\n\x7d".toList) =
      some .classes := by decide +kernel
  have hbalanced : Balanced (source "classDiagram\nclass Foo \x7b +int id\n\x7d".toList) :=
    balanced_iff.2 (by decide +kernel)
  have hlevel : level 0 (repair "classDiagram\nclass Foo \x7b +int id\n\x7d".toList) = some 1 := by
    decide +kernel
  have hzero := balanced_iff.1 (h _ hkind hbalanced)
  rw [hlevel] at hzero
  simp at hzero

end Repair

end DiagramStudio
