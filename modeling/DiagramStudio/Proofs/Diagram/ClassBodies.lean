import DiagramStudio.Proofs.Diagram.ClassRebuilt

/-!
# Class bodies and scopes

A rebuilt class diagram consists of single lines and whole class bodies. A body is a header, at
least one member and a closing brace, with nothing in between, and every other closing brace closes
a scope that a line before it has opened.

`Rebuilt` is the grammar of what the fold writes. Its index is the number of scopes that the fold
counts, so a closing brace can only be written where the count is not zero.

## Main definitions

- `ClassBlock.Rebuilt`: lines that the fold writes, with the scopes open before and after them
- `ClassBlock.surplus`: how many more scopes are open after written lines than before them
- `ClassBlock.WellNested`: diagrams in which bodies are whole and no brace is closed too often
-/

namespace DiagramStudio.ClassBlock

open Text

/-! ## Scopes of written lines -/

/-- True of the lines that open and close no scope, whatever they end in: members, directives,
comments and relationships. -/
def passedOver (line : Text) : Bool :=
  memberIndent.isPrefixOf line ||
    match LineKind.of (trim line) with
    | .directive | .aside => true
    | _ => false

/-- How many more scopes are open after a line. -/
def weight (line : Text) : Int :=
  if passedOver line then 0
  else if line.getLast? = some '{' then 1
  else if line = statement ['}'] then -1
  else 0

/-- How many more scopes are open after lines than before them. -/
def surplus : List Text → Int
  | [] => 0
  | line :: rest => weight line + surplus rest

/-- Lines in which no scope is closed that was not opened, and every header of a class body is
followed by members and then by the brace that closes the body. -/
structure WellNested (out : List Text) : Prop where
  scopes : ∀ front, front <+: out → 0 ≤ surplus front
  bodies : ∀ front header back name, out = front ++ header :: back →
    LineKind.of (trim header) = .header name →
      ∃ members rest, members ≠ [] ∧ (∀ line ∈ members, memberIndent <+: line) ∧
        back = members ++ statement ['}'] :: rest

/-! ## What the fold writes -/

/-- `Rebuilt n out m` says that the fold may write the lines `out` from `n` open scopes on, and
has `m` scopes open after them. -/
inductive Rebuilt : Nat → List Text → Nat → Prop
  | nil (n : Nat) : Rebuilt n [] n
  | directive {n m : Nat} {line : Text} {rest : List Text} : Inked line →
      LineKind.of line = .directive → Rebuilt n rest m → Rebuilt n (line :: rest) m
  | indented {n k m : Nat} {line : Text} {rest : List Text} : Inked line →
      (∀ name, LineKind.of line ≠ .header name) → (k : Int) = n + weight (statement line) →
      Rebuilt k rest m → Rebuilt n (statement line :: rest) m
  | body {n m : Nat} {c : OpenClass} {rest : List Text} : c.Legible → c.members ≠ [] →
      Rebuilt n rest m → Rebuilt n (c.written ++ rest) m

theorem Rebuilt.append {n k m : Nat} {out out' : List Text} (h : Rebuilt n out k)
    (h' : Rebuilt k out' m) : Rebuilt n (out ++ out') m := by
  induction h with
  | nil => exact h'
  | directive hline hkind _ ih => exact .directive hline hkind (ih h')
  | indented hline hkind hweight _ ih => exact .indented hline hkind hweight (ih h')
  | body hc hmembers _ ih =>
    rw [List.append_assoc]
    exact .body hc hmembers (ih h')

theorem rebuilt_directive {line : Text} (hline : Inked line)
    (hkind : LineKind.of line = .directive) (n : Nat) : Rebuilt n [line] n :=
  .directive hline hkind (.nil n)

theorem rebuilt_statement {n m : Nat} {line : Text} {kind : LineKind} (hline : Inked line)
    (hkind : LineKind.of line = kind) (hheader : ∀ name, kind ≠ .header name)
    (hweight : (m : Int) = n + weight (statement line)) : Rebuilt n [statement line] m :=
  .indented hline (hkind ▸ hheader) hweight (.nil m)

/-! ### Weights -/

/-- A statement is indented less than a member. -/
theorem not_memberIndent_statement {line : Text} (h : Inked line) :
    memberIndent.isPrefixOf (statement line) = false := by
  obtain ⟨c, t, rfl⟩ := List.exists_cons_of_ne_nil h.ne_nil
  have hc : c ≠ ' ' := by
    rintro rfl
    exact absurd (h.trimmed_self.head ' ' rfl) (by decide)
  simp [memberIndent, statementIndent, statement, List.replicate, List.isPrefixOf_cons_cons,
    hc.symm]

theorem getLast?_statement {line : Text} (h : Inked line) :
    (statement line).getLast? = line.getLast? :=
  List.getLast?_append_of_ne_nil _ h.ne_nil

theorem weight_directive {line : Text} (hline : Inked line)
    (hkind : LineKind.of line = .directive) : weight line = 0 := by
  rw [weight, passedOver, hline.trimmed, hkind]
  simp

theorem weight_aside {line : Text} (hline : Inked line) (hkind : LineKind.of line = .aside) :
    weight (statement line) = 0 := by
  rw [weight, passedOver, trim_statement hline, hkind]
  simp

theorem weight_memberLine (line : Text) : weight (memberLine line) = 0 := by
  have hindent : memberIndent.isPrefixOf (memberLine line) = true :=
    List.isPrefixOf_iff_prefix.2 ⟨line, rfl⟩
  rw [weight, passedOver, hindent]
  rfl

/-- All other lines are weighed by the brace at their end. -/
theorem weight_statement {line : Text} {kind : LineKind} (hline : Inked line)
    (hkind : LineKind.of line = kind) (hdirective : kind ≠ .directive) (haside : kind ≠ .aside) :
    weight (statement line) =
      if line.getLast? = some '{' then 1 else if line = ['}'] then -1 else 0 := by
  have hpassed : passedOver (statement line) = false := by
    rw [passedOver, not_memberIndent_statement hline, trim_statement hline, Bool.false_or]
    split
    · next h => exact absurd (hkind.symm.trans h) hdirective
    · next h => exact absurd (hkind.symm.trans h) haside
    · rfl
  rw [weight, hpassed, if_neg Bool.false_ne_true, getLast?_statement hline]
  simp [statement]

theorem weight_closer : weight (statement ['}']) = -1 := by decide

theorem weight_header {name : Text} (hword : isClassName name = true)
    (hkind : LineKind.of ("class ".toList ++ (name ++ [' ', '{'])) = .header name) :
    weight (statement ("class ".toList ++ (name ++ [' ', '{']))) = 1 := by
  have hline : "class ".toList ++ (name ++ [' ', '{']) =
      ("class ".toList ++ (name ++ [' '])) ++ ['{'] := by
    simp only [List.append_assoc, List.singleton_append]
  rw [weight_statement (inked_headerLine hword) hkind (by simp) (by simp), hline,
    List.getLast?_concat, if_pos rfl]

theorem weight_bare {name : Text} (hword : isClassName name = true)
    (hkind : LineKind.of ("class ".toList ++ name) = .bare name) :
    weight (statement ("class ".toList ++ name)) = 0 := by
  have hlast : ("class ".toList ++ name).getLast? ≠ some '{' := by
    rw [List.getLast?_append_of_ne_nil _ (className_ne_nil hword)]
    exact fun h => (of_mem_className hword (List.mem_of_getLast? h)).2.1 rfl
  rw [weight_statement (inked_bareLine hword) hkind (by simp) (by simp), if_neg hlast, if_neg]
  exact fun h => absurd (List.cons.inj h).1 (by decide)

/-- A statement opens the scopes that the fold counts for it. -/
theorem scopesAfter_eq_add_weight {line : Text} {kind : LineKind} (hline : Inked line)
    (hkind : LineKind.of line = kind) (hdirective : kind ≠ .directive) (haside : kind ≠ .aside)
    (hcloser : kind ≠ .closer) (s : State) :
    (s.scopesAfter line : Int) = s.scopes + weight (statement line) := by
  have hne : line ≠ ['}'] := by
    rintro rfl
    exact hcloser (hkind.symm.trans kind_closer)
  rw [weight_statement hline hkind hdirective haside, if_neg hne, State.scopesAfter]
  split <;> simp

/-! ### Steps and runs -/

theorem rebuilt_bare {name : Text} (hword : isClassName name = true)
    (hkind : LineKind.of ("class ".toList ++ name) = .bare name) (n : Nat) :
    Rebuilt n [statement ("class ".toList ++ name)] n := by
  refine rebuilt_statement (inked_bareLine hword) hkind (by simp) ?_
  rw [weight_bare hword hkind, Int.add_zero]

theorem OpenClass.Legible.rebuilt {c : OpenClass} (h : c.Legible) (n : Nat) :
    Rebuilt n c.written n := by
  cases hmembers : c.members with
  | nil =>
    rw [written, hmembers]
    exact rebuilt_bare h.word h.bare n
  | cons line members =>
    have hbody := Rebuilt.body h (by simp [hmembers]) (Rebuilt.nil n)
    rwa [List.append_nil] at hbody

theorem State.Legible.rebuilt {s : State} (h : s.Legible) :
    Rebuilt s.scopes s.flushed s.scopes := by
  rw [flushed]
  cases hblock : s.block with
  | none => exact .nil _
  | some c => exact (h c hblock).rebuilt _

/-- A step writes single lines and whole bodies, and counts the scopes that they open. -/
theorem rebuilt_step {s : State} {line : Text} (hs : s.Legible) (hline : Inked line) :
    Rebuilt s.scopes (step s line).2 (step s line).1.scopes := by
  have hflushed := hs.rebuilt
  have hstatement : ∀ kind, LineKind.of line = kind → kind ≠ .directive → kind ≠ .aside →
      kind ≠ .closer → (∀ name, kind ≠ .header name) →
      Rebuilt s.scopes [statement line] (s.scopesAfter line) := by
    intro kind hkind hdirective haside hcloser hheader
    exact rebuilt_statement hline hkind hheader
      (scopesAfter_eq_add_weight hline hkind hdirective haside hcloser s)
  rw [step]
  cases hkind : LineKind.of line with
  | directive => exact rebuilt_directive hline hkind _
  | aside =>
    refine rebuilt_statement hline hkind (by simp) ?_
    rw [weight_aside hline hkind, Int.add_zero]
  | header name => exact hflushed
  | bare name =>
    exact hflushed.append (rebuilt_bare (eq_of_kind_bare hkind).1 (kind_of_kind_bare hkind) _)
  | otherClass => exact hflushed.append (hstatement _ hkind (by simp) (by simp) (by simp) (by simp))
  | closer =>
    cases hblock : s.block with
    | some c => exact hflushed
    | none =>
      dsimp only
      split
      · exact .nil _
      · next hne =>
        -- Only here a brace is written alone, and a scope is open.
        obtain rfl := eq_of_kind_closer hkind
        refine rebuilt_statement inked_closer hkind (by simp) ?_
        rw [weight_closer]
        dsimp only
        omega
  | member =>
    cases hblock : s.block with
    | some c => exact .nil _
    | none => exact hstatement _ hkind (by simp) (by simp) (by simp) (by simp)
  | other =>
    cases hblock : s.block with
    | some c => exact .nil _
    | none => exact hstatement _ hkind (by simp) (by simp) (by simp) (by simp)

theorem rebuilt_run {s : State} {lines : List Text} (hs : s.Legible)
    (h : ∀ line ∈ lines, Inked line) : ∃ m, Rebuilt s.scopes (run s lines) m := by
  induction lines generalizing s with
  | nil => exact ⟨s.scopes, hs.rebuilt⟩
  | cons line lines ih =>
    rw [List.forall_mem_cons] at h
    obtain ⟨m, hrest⟩ := ih (echoes_step hs h.1).1 h.2
    exact ⟨m, (rebuilt_step hs h.1).append hrest⟩

/-! ## What was written -/

theorem Inked.terminable {line : Text} (h : Inked line) :
    line ≠ [] ∧ '\n' ∉ line ∧ line.getLast? ≠ some '\r' := by
  refine ⟨h.ne_nil, h.newline, fun hlast => ?_⟩
  exact absurd (h.trimmed_self.last _ hlast) (by decide)

theorem terminable_append {w line : Text} (hw : '\n' ∉ w) (h : Inked line) :
    w ++ line ≠ [] ∧ '\n' ∉ w ++ line ∧ (w ++ line).getLast? ≠ some '\r' := by
  obtain ⟨hne, hnewline, hlast⟩ := h.terminable
  refine ⟨by simp [hne], by simp [hw, hnewline], ?_⟩
  rwa [List.getLast?_append_of_ne_nil _ hne]

theorem Rebuilt.terminable {n m : Nat} {out : List Text} (h : Rebuilt n out m) :
    ∀ line ∈ out, line ≠ [] ∧ '\n' ∉ line ∧ line.getLast? ≠ some '\r' := by
  have hindent : '\n' ∉ statementIndent ∧ '\n' ∉ memberIndent := by decide
  induction h with
  | nil => simp
  | directive hline _ _ ih => exact List.forall_mem_cons.2 ⟨hline.terminable, ih⟩
  | indented hline _ _ _ ih =>
    exact List.forall_mem_cons.2 ⟨terminable_append hindent.1 hline, ih⟩
  | body hc hmembers _ ih =>
    rw [OpenClass.written_of_ne_nil hmembers]
    refine List.forall_mem_append.2 ⟨?_, ih⟩
    rw [List.forall_mem_cons, List.forall_mem_append, List.forall_mem_map,
      List.forall_mem_singleton]
    exact ⟨terminable_append hindent.1 (inked_headerLine hc.word),
      fun line hline => terminable_append hindent.2 (hc.members line hline).1,
      terminable_append hindent.1 inked_closer⟩

theorem rebuilt_inkedLines (code : Text) : ∃ m, Rebuilt 0 (run .start (inkedLines code)) m :=
  rebuilt_run (legible_none 0) fun _ => inked_of_mem_inkedLines

/-- The lines of a rebuilt diagram are those that the fold writes. -/
theorem lines_rebuild (code : Text) : lines (rebuild code) = run .start (inkedLines code) := by
  obtain ⟨m, h⟩ := rebuilt_inkedLines code
  exact lines_joinLines h.terminable

theorem surplus_append (out out' : List Text) :
    surplus (out ++ out') = surplus out + surplus out' := by
  induction out with
  | nil => rw [List.nil_append, surplus, Int.zero_add]
  | cons line out ih => rw [List.cons_append, surplus, surplus, ih, Int.add_assoc]

theorem surplus_singleton (line : Text) : surplus [line] = weight line := by
  rw [surplus, surplus, Int.add_zero]

theorem surplus_members (members : List Text) : surplus (members.map memberLine) = 0 := by
  induction members with
  | nil => rfl
  | cons line members ih => rw [List.map_cons, surplus, weight_memberLine, ih, Int.zero_add]

/-- A body closes the scope that its header opens, and no other. -/
theorem OpenClass.Legible.surplus_written {c : OpenClass} (h : c.Legible)
    (hmembers : c.members ≠ []) :
    surplus c.written = 0 ∧ ∀ front, front <+: c.written → 0 ≤ surplus front := by
  have hheader := weight_header h.word h.header
  rw [written_of_ne_nil hmembers]
  constructor
  · rw [surplus, surplus_append, surplus_members, hheader, surplus_singleton, weight_closer]
    decide
  · intro front hfront
    rcases List.prefix_cons_iff.1 hfront with rfl | ⟨rest, rfl, hrest⟩
    · exact Int.le_refl 0
    · rw [surplus, hheader]
      rcases prefix_append_cases hrest with hmember | ⟨last, hlast, rfl⟩
      · obtain ⟨k, rfl⟩ : ∃ k, rest = (c.members.take k).map memberLine :=
          ⟨rest.length, by rw [List.map_take]; exact List.prefix_iff_eq_take.1 hmember⟩
        rw [surplus_members]
        decide
      · rw [surplus_append, surplus_members]
        rcases List.prefix_cons_iff.1 hlast with rfl | ⟨last, rfl, hnil⟩
        · decide
        · rw [List.prefix_nil.1 hnil, surplus_singleton, weight_closer]
          decide

theorem Rebuilt.surplus_nonneg {n m : Nat} {out : List Text} (h : Rebuilt n out m) :
    ∀ front, front <+: out → 0 ≤ (n : Int) + surplus front := by
  induction h with
  | nil n =>
    intro front hfront
    rw [List.prefix_nil.1 hfront]
    simp [surplus]
  | directive hline hkind _ ih =>
    intro front hfront
    rcases List.prefix_cons_iff.1 hfront with rfl | ⟨rest, rfl, hrest⟩
    · simp [surplus]
    · rw [surplus, weight_directive hline hkind, Int.zero_add]
      exact ih rest hrest
  | indented _ _ hweight _ ih =>
    intro front hfront
    rcases List.prefix_cons_iff.1 hfront with rfl | ⟨rest, rfl, hrest⟩
    · simp [surplus]
    · rw [surplus, ← Int.add_assoc, ← hweight]
      exact ih rest hrest
  | body hc hmembers _ ih =>
    intro front hfront
    obtain ⟨hzero, hprefix⟩ := hc.surplus_written hmembers
    rcases prefix_append_cases hfront with hbody | ⟨rest, hrest, rfl⟩
    · have := hprefix front hbody
      omega
    · rw [surplus_append, hzero, Int.zero_add]
      exact ih rest hrest

/-- In a body only the first line reads as a header. -/
theorem OpenClass.Legible.eq_of_header {c : OpenClass} (h : c.Legible) (hmembers : c.members ≠ [])
    {front back : List Text} {header name : Text} (hc : c.written = front ++ header :: back)
    (hkind : LineKind.of (trim header) = .header name) :
    back = c.members.map memberLine ++ [statement ['}']] := by
  rw [written_of_ne_nil hmembers] at hc
  cases front with
  | nil => exact (List.cons.inj hc).2.symm
  | cons first front =>
    have hmem : header ∈ c.members.map memberLine ++ [statement ['}']] := by
      rw [(List.cons.inj hc).2]
      simp
    rcases List.mem_append.1 hmem with hmem | hmem
    · obtain ⟨line, hline, rfl⟩ := List.mem_map.1 hmem
      obtain ⟨hinked, hmember⟩ := h.members line hline
      rw [trim_memberLine hinked, hmember] at hkind
      simp at hkind
    · rw [List.mem_singleton.1 hmem, trim_statement inked_closer, kind_closer] at hkind
      simp at hkind

theorem Rebuilt.exists_body {n m : Nat} {out : List Text} (h : Rebuilt n out m)
    {front back : List Text} {header name : Text} (hout : out = front ++ header :: back)
    (hkind : LineKind.of (trim header) = .header name) :
    ∃ members rest, members ≠ [] ∧ (∀ line ∈ members, memberIndent <+: line) ∧
      back = members ++ statement ['}'] :: rest := by
  induction h generalizing front with
  | nil => simp at hout
  | directive hline hdirective _ ih =>
    cases front with
    | nil =>
      obtain ⟨rfl, -⟩ := List.cons.inj hout
      rw [hline.trimmed, hdirective] at hkind
      simp at hkind
    | cons _ front => exact ih (List.cons.inj hout).2
  | indented hline hheader _ _ ih =>
    cases front with
    | nil =>
      obtain ⟨rfl, -⟩ := List.cons.inj hout
      rw [trim_statement hline] at hkind
      exact absurd hkind (hheader name)
    | cons _ front => exact ih (List.cons.inj hout).2
  | @body _ _ c rest hc hmembers _ ih =>
    rcases List.append_eq_append_iff.1 hout with ⟨u, rfl, hrest⟩ | ⟨u, hwritten, hback⟩
    · exact ih hrest
    · cases u with
      | nil => exact @ih [] hback.symm
      | cons first u =>
        obtain ⟨rfl, rfl⟩ := List.cons.inj hback
        rw [hc.eq_of_header hmembers hwritten hkind]
        refine ⟨c.members.map memberLine, rest, by simpa using hmembers, ?_, by simp⟩
        intro line hline
        obtain ⟨member, -, rfl⟩ := List.mem_map.1 hline
        exact List.prefix_append ..

/-- A rebuilt diagram closes no scope that it did not open, and its class bodies are whole. -/
theorem wellNested_rebuild (code : Text) : WellNested (lines (rebuild code)) := by
  obtain ⟨m, h⟩ := rebuilt_inkedLines code
  rw [lines_rebuild]
  refine ⟨fun front hfront => ?_, fun front header back name hout hkind => h.exists_body hout hkind⟩
  simpa using h.surplus_nonneg front hfront

end DiagramStudio.ClassBlock
