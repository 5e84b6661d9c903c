import DiagramStudio.Proofs.Diagram.ClassBodies
import Mathlib.Data.List.Nodup
import Mathlib.Data.List.Range

/-!
# The lines of a class diagram, accounted for

A rebuilt class diagram holds the lines of its source, each of them once. A line is left out only if
it is blank, a closing brace, or text of no known form in an open class. A class keeps its place
among the classes and has the members that were read while it was open.

Lines are told apart by their numbers, since a source may hold the same line twice. After every
line, what is written and what the open class holds account for all lines so far; at the end
nothing is held.

## Main definitions

- `ClassBlock.opener?`: the header of the class that is open when a line is read
- `ClassBlock.role`: what becomes of a line
- `ClassBlock.Piece`: a part of a rebuilt diagram, with the numbers of the lines it is made from
- `ClassBlock.Accounts`: pieces that account for the lines of a source
-/

namespace DiagramStudio.ClassBlock

open Text

/-! ## Roles of lines -/

section

variable (source : List Text)

/-- Line `n` of a source. -/
def lineAt (n : Nat) : Text := source.getD n []

/-- The state of the fold before line `n`, which passes over blank lines. -/
def stateBefore : Nat → State
  | 0 => .start
  | n + 1 =>
    if lineAt source n = [] then stateBefore n else (step (stateBefore n) (lineAt source n)).1

/-- The number of the header of the class that is open when line `n` is read. -/
def opener? : Nat → Option Nat
  | 0 => none
  | n + 1 =>
    match LineKind.of (lineAt source n) with
    | .header _ => some n
    | .bare _ | .otherClass | .closer => none
    | .directive | .aside | .member | .other => opener? n

/-- What becomes of a line. -/
inductive Role
  /-- It is left out. -/
  | lost
  /-- It is written as a line of its own. -/
  | alone
  /-- It is written as the header of a class. -/
  | header
  /-- It is written as a member of the class with header `h`. -/
  | member (h : Nat)
  deriving DecidableEq

def role (n : Nat) : Role :=
  if lineAt source n = [] then .lost
  else
    match LineKind.of (lineAt source n), opener? source n with
    | .closer, _ => .lost
    -- Text in an open class that is not a member.
    | .other, some _ => .lost
    | .header _, _ => .header
    | .member, some h => .member h
    | _, _ => .alone

/-- The lines up to line `n` that are members of the class with header `h`. -/
def membersOf (n h : Nat) : List Nat :=
  (List.range n).filter fun i => role source i = .member h

end

/-- The class that a line declares. -/
def LineKind.declared? : LineKind → Option Text
  | .header name | .bare name => some name
  | _ => none

/-- The names of the classes that lines declare, in order. -/
def declaredNames (lines : List Text) : List Text :=
  lines.filterMap fun line => (LineKind.of line).declared?

/-! ## Pieces of a rebuilt diagram -/

/-- A part of a rebuilt diagram. -/
inductive Piece
  /-- Line `n` of the source. -/
  | line (n : Nat)
  /-- The class with header `h`. -/
  | block (h : Nat) (members : List Nat)
  /-- The closing brace of another scope. -/
  | brace

namespace Piece

/-- The lines of the source that a piece is made from. -/
def numbers : Piece → List Nat
  | .line n => [n]
  | .block h members => h :: members
  | .brace => []

/-- The line of the source that a piece is. -/
def lines : Piece → List Nat
  | .line n => [n]
  | .block _ _ | .brace => []

variable (source : List Text)

/-- The line of the source that declares the class of a piece. -/
def declarations : Piece → List Nat
  | .line n => if (LineKind.of (lineAt source n)).declared?.isSome then [n] else []
  | .block h _ => [h]
  | .brace => []

/-- The name of the class that line `n` declares. -/
def className (n : Nat) : Text := (LineKind.of (lineAt source n)).declared?.getD []

/-- The lines of a piece in the rebuilt diagram. -/
def written : Piece → List Text
  | .line n =>
    match LineKind.of (lineAt source n) with
    | .directive => [lineAt source n]
    | .bare name => [statement ("class ".toList ++ name)]
    | _ => [statement (lineAt source n)]
  | .block h [] => [statement ("class ".toList ++ className source h)]
  | .block h (n :: members) =>
    statement ("class ".toList ++ className source h ++ [' ', '{']) ::
      (n :: members).map (fun i => memberLine (lineAt source i)) ++ [statement ['}']]
  | .brace => [statement ['}']]

end Piece

/-- The class that is open when line `n` is read, with the members read so far. -/
def heldClass (source : List Text) (n : Nat) : Option OpenClass :=
  (opener? source n).map fun h =>
    ⟨Piece.className source h, (membersOf source n h).map (lineAt source)⟩

/-- Pieces that account for the first `n` lines of a source: each line that is not lost stands in
them once, lines of their own and declarations keep their order, and a class has the members that
were read while it was open. -/
structure Accounts (source : List Text) (n : Nat) (pieces : List Piece) : Prop where
  once : (pieces.flatMap Piece.numbers).Perm
    ((List.range n).filter fun i => role source i ≠ .lost)
  alone : pieces.flatMap Piece.lines = (List.range n).filter fun i => role source i = .alone
  declarations : pieces.flatMap (Piece.declarations source) =
    (List.range n).filter fun i => (LineKind.of (lineAt source i)).declared?.isSome
  blocks : ∀ h members, Piece.block h members ∈ pieces →
    role source h = .header ∧ members = membersOf source n h

/-! ## Reading one more line -/

section

variable {source : List Text} {n : Nat}

theorem filter_range_succ (p : Nat → Bool) (n : Nat) :
    (List.range (n + 1)).filter p = (List.range n).filter p ++ if p n then [n] else [] := by
  rw [List.range_succ, List.filter_append]
  congr 1
  cases hp : p n <;> simp [hp]

theorem membersOf_succ (source : List Text) (n h : Nat) : membersOf source (n + 1) h =
    membersOf source n h ++ if role source n = .member h then [n] else [] := by
  rw [membersOf, filter_range_succ]
  simp [membersOf]

theorem kind_of_role_header (hrole : role source n = .header) :
    ∃ name, LineKind.of (lineAt source n) = .header name := by
  rw [role] at hrole
  split at hrole
  · cases hrole
  · split at hrole <;> simp_all

theorem of_role_member {h : Nat} (hrole : role source n = .member h) :
    lineAt source n ≠ [] ∧ LineKind.of (lineAt source n) = .member ∧
      opener? source n = some h := by
  rw [role] at hrole
  split at hrole
  · cases hrole
  · split at hrole <;> simp_all

theorem opener?_lt {h : Nat} (hopen : opener? source n = some h) : h < n := by
  induction n with
  | zero => cases hopen
  | succ n ih =>
    rw [opener?] at hopen
    split at hopen
    · rw [← Option.some.inj hopen]
      exact Nat.lt_succ_self n
    · cases hopen
    · cases hopen
    · cases hopen
    all_goals exact Nat.lt_succ_of_lt (ih hopen)

/-- A class has no members before its header. -/
theorem membersOf_self (source : List Text) (n : Nat) : membersOf source n n = [] := by
  rw [membersOf, List.filter_eq_nil_iff]
  intro i hi hmember
  have hlt := opener?_lt (of_role_member (of_decide_eq_true hmember)).2.2
  exact absurd (List.mem_range.1 hi) (Nat.lt_asymm hlt)

/-! ### What one line changes -/

theorem Accounts.not_member {pieces : List Piece} {h : Nat} {members : List Nat}
    (hpieces : Accounts source n (pieces ++ [.block h members])) :
    ∀ members', Piece.block h members' ∉ pieces := by
  have hnodup : ((pieces ++ [Piece.block h members]).flatMap Piece.numbers).Nodup :=
    hpieces.once.nodup_iff.2 (List.nodup_range.filter _)
  rw [List.flatMap_append, List.nodup_append] at hnodup
  intro members' hmem
  exact hnodup.2.2 h (List.mem_flatMap_of_mem hmem (by simp [Piece.numbers])) h
    (by simp [Piece.numbers]) rfl

theorem Accounts.block_succ {pieces : List Piece} (hpieces : Accounts source n pieces)
    (hrole : ∀ h, role source n ≠ .member h) :
    ∀ h members, Piece.block h members ∈ pieces →
      role source h = .header ∧ members = membersOf source (n + 1) h := by
  intro h members hmem
  rw [membersOf_succ, if_neg (hrole h), List.append_nil]
  exact hpieces.blocks h members hmem

theorem Accounts.lost {pieces : List Piece} (hpieces : Accounts source n pieces)
    (hrole : role source n = .lost)
    (hdeclared : (LineKind.of (lineAt source n)).declared? = none) :
    Accounts source (n + 1) pieces where
  once := by simpa [filter_range_succ, hrole] using hpieces.once
  alone := by simpa [filter_range_succ, hrole] using hpieces.alone
  declarations := by simpa [filter_range_succ, hdeclared] using hpieces.declarations
  blocks := hpieces.block_succ (by simp [hrole])

theorem Accounts.brace {pieces : List Piece} (hpieces : Accounts source n pieces) :
    Accounts source n (pieces ++ [.brace]) where
  once := by simpa [Piece.numbers] using hpieces.once
  alone := by simpa [Piece.lines] using hpieces.alone
  declarations := by simpa [Piece.declarations] using hpieces.declarations
  blocks := by simpa using hpieces.blocks

/-- A line of its own may be written before a class that is open, unless it declares a class. -/
theorem Accounts.line {pieces held : List Piece} (hpieces : Accounts source n (pieces ++ held))
    (hrole : role source n = .alone) (hheld : held.flatMap Piece.lines = [])
    (hdeclared : (LineKind.of (lineAt source n)).declared? = none ∨ held = []) :
    Accounts source (n + 1) (pieces ++ [.line n] ++ held) where
  once := by
    have hread := hpieces.once.append_right [n]
    rw [List.flatMap_append, List.append_assoc] at hread
    have hmoved := (List.perm_append_comm.append_left (pieces.flatMap Piece.numbers)).trans hread
    simpa [filter_range_succ, hrole, Piece.numbers] using hmoved
  alone := by
    have hread := hpieces.alone
    rw [List.flatMap_append, hheld, List.append_nil] at hread
    simp [filter_range_succ, hrole, Piece.lines, hheld, hread]
  declarations := by
    have hread := hpieces.declarations
    rcases hdeclared with hdeclared | rfl
    · simpa [filter_range_succ, hdeclared, Piece.declarations] using hread
    · rw [List.append_nil] at hread
      simp [filter_range_succ, Piece.declarations, hread]
  blocks := by
    intro h members hmem
    have hmem' : Piece.block h members ∈ pieces ++ held := by simpa using hmem
    exact hpieces.block_succ (by simp [hrole]) h members hmem'

theorem Accounts.open {pieces : List Piece} (hpieces : Accounts source n pieces)
    (hrole : role source n = .header)
    (hdeclared : (LineKind.of (lineAt source n)).declared?.isSome) :
    Accounts source (n + 1) (pieces ++ [.block n []]) where
  once := by
    have hread := hpieces.once.append_right [n]
    simpa [filter_range_succ, hrole, Piece.numbers] using hread
  alone := by simpa [filter_range_succ, hrole, Piece.lines] using hpieces.alone
  declarations := by
    simp [filter_range_succ, hdeclared, Piece.declarations, hpieces.declarations]
  blocks := by
    intro h members hmem
    rcases List.mem_append.1 hmem with hmem | hmem
    · exact hpieces.block_succ (by simp [hrole]) h members hmem
    · obtain ⟨rfl, rfl⟩ : h = n ∧ members = [] := by simpa using hmem
      rw [membersOf_succ, membersOf_self, hrole]
      exact ⟨rfl, rfl⟩

theorem Accounts.member {pieces : List Piece} {h : Nat} {members : List Nat}
    (hpieces : Accounts source n (pieces ++ [.block h members]))
    (hrole : role source n = .member h)
    (hdeclared : (LineKind.of (lineAt source n)).declared? = none) :
    Accounts source (n + 1) (pieces ++ [.block h (members ++ [n])]) where
  once := by
    have hread := hpieces.once.append_right [n]
    simpa [filter_range_succ, hrole, Piece.numbers] using hread
  alone := by simpa [filter_range_succ, hrole, Piece.lines] using hpieces.alone
  declarations := by
    simpa [filter_range_succ, hdeclared, Piece.declarations] using hpieces.declarations
  blocks := by
    intro h' members' hmem
    rw [membersOf_succ, hrole]
    rcases List.mem_append.1 hmem with hmem | hmem
    · have hne : h ≠ h' := by
        rintro rfl
        exact hpieces.not_member members' hmem
      rw [if_neg (by simpa using hne), List.append_nil]
      exact hpieces.blocks h' members' (List.mem_append_left _ hmem)
    · obtain ⟨rfl, rfl⟩ : h' = h ∧ members' = members ++ [n] := by simpa using hmem
      obtain ⟨hheader, hmembers⟩ := hpieces.blocks h' members (by simp)
      rw [if_pos rfl, ← hmembers]
      exact ⟨hheader, rfl⟩

/-! ### What the open class holds -/

/-- The piece that the class open before line `n` would be written as. -/
def held (source : List Text) (n : Nat) : List Piece :=
  match opener? source n with
  | none => []
  | some h => [.block h (membersOf source n h)]

theorem held_of_none (hopen : opener? source n = none) : held source n = [] := by
  rw [held, hopen]

theorem held_of_some {h : Nat} (hopen : opener? source n = some h) :
    held source n = [.block h (membersOf source n h)] := by
  rw [held, hopen]

theorem lines_held (source : List Text) (n : Nat) : (held source n).flatMap Piece.lines = [] := by
  rw [held]
  split <;> rfl

/-- Only a member and a class change what is held. -/
theorem held_succ (hopen : opener? source (n + 1) = opener? source n)
    (hrole : ∀ h, role source n ≠ .member h) :
    held source (n + 1) = held source n ∧ heldClass source (n + 1) = heldClass source n := by
  have hmembers : membersOf source (n + 1) = membersOf source n := by
    funext h
    rw [membersOf_succ, if_neg (hrole h), List.append_nil]
  rw [held, held, heldClass, heldClass, hopen, hmembers]
  exact ⟨rfl, rfl⟩

theorem Piece.written_block (source : List Text) (h : Nat) (members : List Nat) :
    (Piece.block h members).written source =
      (OpenClass.mk (className source h) (members.map (lineAt source))).written := by
  cases members with
  | nil => rfl
  | cons n members =>
    rw [written, OpenClass.written, List.map_map]
    rfl

/-- What is written and the class in the state of the fold account for the first `n` lines. -/
structure Ledger (source : List Text) (n : Nat) (block : Option OpenClass)
    (pieces : List Piece) : Prop where
  block : block = heldClass source n
  accounts : Accounts source n (pieces ++ held source n)

/-! ### Steps -/

section

variable {block : Option OpenClass} {pieces : List Piece}

theorem Ledger.block_of_none (h : Ledger source n block pieces)
    (hopen : opener? source n = none) : block = none := by
  rw [h.block, heldClass, hopen]
  rfl

theorem Ledger.block_of_some {i : Nat} (h : Ledger source n block pieces)
    (hopen : opener? source n = some i) :
    block = some ⟨Piece.className source i, (membersOf source n i).map (lineAt source)⟩ := by
  rw [h.block, heldClass, hopen]
  rfl

theorem Ledger.flushed_eq {s : State} (h : Ledger source n s.block pieces) :
    s.flushed = (held source n).flatMap (Piece.written source) := by
  rw [State.flushed, h.block, heldClass, held]
  cases opener? source n with
  | none => rfl
  | some i => simp [Piece.written_block]

/-- A line that is lost leaves the ledger as it is. -/
theorem Ledger.lost (h : Ledger source n block pieces) (hrole : role source n = .lost)
    (hdeclared : (LineKind.of (lineAt source n)).declared? = none)
    (hopen : opener? source (n + 1) = opener? source n) : Ledger source (n + 1) block pieces := by
  obtain ⟨hheld, hclass⟩ := held_succ hopen (by simp [hrole])
  refine ⟨hclass ▸ h.block, ?_⟩
  rw [hheld]
  exact h.accounts.lost hrole hdeclared

/-- A line of its own is written while a class may be open. -/
theorem Ledger.line (h : Ledger source n block pieces) (hrole : role source n = .alone)
    (hdeclared : (LineKind.of (lineAt source n)).declared? = none)
    (hopen : opener? source (n + 1) = opener? source n) :
    Ledger source (n + 1) block (pieces ++ [.line n]) := by
  obtain ⟨hheld, hclass⟩ := held_succ hopen (by simp [hrole])
  refine ⟨hclass ▸ h.block, ?_⟩
  rw [hheld]
  exact h.accounts.line hrole (lines_held source n) (.inl hdeclared)

/-- The open class is written before a line that ends it. -/
theorem Ledger.line_of_flushed (h : Ledger source n block pieces) (hrole : role source n = .alone)
    (hopen : opener? source (n + 1) = none) :
    Ledger source (n + 1) none (pieces ++ (held source n ++ [.line n])) := by
  refine ⟨by rw [heldClass, hopen]; rfl, ?_⟩
  have haccounts : Accounts source n (pieces ++ held source n ++ []) := by
    rw [List.append_nil]
    exact h.accounts
  rw [held_of_none hopen, ← List.append_assoc]
  exact haccounts.line hrole rfl (.inr rfl)

/-- The open class is written before the next one. -/
theorem Ledger.open {name : Text} (h : Ledger source n block pieces)
    (hline : lineAt source n ≠ []) (hkind : LineKind.of (lineAt source n) = .header name) :
    Ledger source (n + 1) (some ⟨name, []⟩) (pieces ++ held source n) := by
  have hopen : opener? source (n + 1) = some n := by rw [opener?, hkind]
  have hrole : role source n = .header := by simp [role, hline, hkind]
  have hmembers : membersOf source (n + 1) n = [] := by
    rw [membersOf_succ, membersOf_self, hrole]
    rfl
  constructor
  · rw [heldClass, hopen, Option.map_some, hmembers, Piece.className, hkind]
    rfl
  · rw [held_of_some hopen, hmembers]
    exact h.accounts.open hrole (by rw [hkind]; rfl)

/-- The open class is written at its closing brace. -/
theorem Ledger.close (h : Ledger source n block pieces) (hline : lineAt source n ≠ [])
    (hkind : LineKind.of (lineAt source n) = .closer) :
    Ledger source (n + 1) none (pieces ++ held source n) := by
  have hopen : opener? source (n + 1) = none := by rw [opener?, hkind]
  refine ⟨by rw [heldClass, hopen]; rfl, ?_⟩
  rw [held_of_none hopen, List.append_nil]
  exact h.accounts.lost (by simp [role, hline, hkind]) (by rw [hkind]; rfl)

theorem Ledger.brace (h : Ledger source n none pieces) (hopen : opener? source n = none) :
    Ledger source n none (pieces ++ [.brace]) := by
  have haccounts := h.accounts
  rw [held_of_none hopen, List.append_nil] at haccounts
  refine ⟨h.block, ?_⟩
  rw [held_of_none hopen, List.append_nil]
  exact haccounts.brace

/-- A member goes to the open class. -/
theorem Ledger.member {i : Nat} (h : Ledger source n block pieces) (hline : lineAt source n ≠ [])
    (hkind : LineKind.of (lineAt source n) = .member) (hopen : opener? source n = some i) :
    Ledger source (n + 1) (some ⟨Piece.className source i,
      (membersOf source n i).map (lineAt source) ++ [lineAt source n]⟩) pieces := by
  have hopen' : opener? source (n + 1) = some i := by rw [opener?, hkind, hopen]
  have hrole : role source n = .member i := by simp [role, hline, hkind, hopen]
  have hmembers : membersOf source (n + 1) i = membersOf source n i ++ [n] := by
    rw [membersOf_succ, hrole, if_pos rfl]
  have haccounts := h.accounts
  rw [held_of_some hopen] at haccounts
  constructor
  · rw [heldClass, hopen', Option.map_some, hmembers, List.map_append]
    rfl
  · rw [held_of_some hopen', hmembers]
    exact haccounts.member hrole (by rw [hkind]; rfl)

theorem Ledger.blank (h : Ledger source n block pieces) (hblank : lineAt source n = []) :
    Ledger source (n + 1) block pieces := by
  have hkind : LineKind.of (lineAt source n) = .other := by
    rw [hblank]
    rfl
  exact h.lost (by rw [role, if_pos hblank]) (by rw [hkind]; rfl) (by rw [opener?, hkind])

end

/-- What a step writes and what it keeps account for one more line. -/
theorem ledger_step {s : State} {pieces : List Piece} (h : Ledger source n s.block pieces)
    (hline : lineAt source n ≠ []) :
    ∃ out, (step s (lineAt source n)).2 = out.flatMap (Piece.written source) ∧
      Ledger source (n + 1) (step s (lineAt source n)).1.block (pieces ++ out) := by
  have hflushed := h.flushed_eq
  rw [step]
  cases hkind : LineKind.of (lineAt source n) with
  | directive =>
    refine ⟨[.line n], by simp [Piece.written, hkind], ?_⟩
    exact h.line (by simp [role, hline, hkind]) (by rw [hkind]; rfl) (by rw [opener?, hkind])
  | aside =>
    refine ⟨[.line n], by simp [Piece.written, hkind], ?_⟩
    exact h.line (by simp [role, hline, hkind]) (by rw [hkind]; rfl) (by rw [opener?, hkind])
  | header name => exact ⟨held source n, hflushed, h.open hline hkind⟩
  | bare name =>
    refine ⟨held source n ++ [.line n], by simp [Piece.written, hkind, hflushed], ?_⟩
    exact h.line_of_flushed (by simp [role, hline, hkind]) (by rw [opener?, hkind])
  | otherClass =>
    refine ⟨held source n ++ [.line n], by simp [Piece.written, hkind, hflushed], ?_⟩
    exact h.line_of_flushed (by simp [role, hline, hkind]) (by rw [opener?, hkind])
  | closer =>
    have hclosed := h.close hline hkind
    cases hopen : opener? source n with
    | some i =>
      rw [h.block_of_some hopen]
      exact ⟨held source n, hflushed, hclosed⟩
    | none =>
      have hblock := h.block_of_none hopen
      rw [held_of_none hopen, List.append_nil] at hclosed
      rw [hblock]
      dsimp only
      split
      · refine ⟨[], rfl, ?_⟩
        rw [hblock, List.append_nil]
        exact hclosed
      · refine ⟨[.brace], by simp [Piece.written, eq_of_kind_closer hkind], ?_⟩
        exact hclosed.brace (by rw [opener?, hkind])
  | member =>
    cases hopen : opener? source n with
    | some i =>
      rw [h.block_of_some hopen]
      refine ⟨[], rfl, ?_⟩
      rw [List.append_nil]
      exact h.member hline hkind hopen
    | none =>
      have hblock := h.block_of_none hopen
      rw [hblock] at h ⊢
      refine ⟨[.line n], by simp [Piece.written, hkind], ?_⟩
      exact h.line (by simp [role, hline, hkind, hopen]) (by rw [hkind]; rfl)
        (by rw [opener?, hkind])
  | other =>
    cases hopen : opener? source n with
    | some i =>
      have hblock := h.block_of_some hopen
      rw [hblock]
      refine ⟨[], rfl, ?_⟩
      rw [List.append_nil]
      exact h.lost (by simp [role, hline, hkind, hopen]) (by rw [hkind]; rfl)
        (by rw [opener?, hkind])
    | none =>
      have hblock := h.block_of_none hopen
      rw [hblock] at h ⊢
      refine ⟨[.line n], by simp [Piece.written, hkind], ?_⟩
      exact h.line (by simp [role, hline, hkind, hopen]) (by rw [hkind]; rfl)
        (by rw [opener?, hkind])

theorem ledger_start (source : List Text) : Ledger source 0 State.start.block [] :=
  ⟨rfl, ⟨.nil, rfl, rfl, by simp [held, opener?]⟩⟩

/-- The fold holds the class that is open. -/
theorem block_stateBefore (source : List Text) (n : Nat) :
    (stateBefore source n).block = heldClass source n := by
  suffices hledger : ∃ pieces, Ledger source n (stateBefore source n).block pieces from
    hledger.elim fun _ h => h.block
  induction n with
  | zero => exact ⟨[], ledger_start source⟩
  | succ n ih =>
    obtain ⟨pieces, h⟩ := ih
    rw [stateBefore]
    split
    · next hblank => exact ⟨pieces, h.blank hblank⟩
    · next hline =>
      obtain ⟨out, -, hnext⟩ := ledger_step h hline
      exact ⟨pieces ++ out, hnext⟩

/-- The lines from some line on, and what the fold holds before them, are written at the end. -/
theorem accounts_run (done rest : List Text) (hsource : source = done ++ rest) {s : State}
    {pieces : List Piece} (h : Ledger source done.length s.block pieces) :
    ∃ out, run s (rest.filter fun line => !line.isEmpty) = out.flatMap (Piece.written source) ∧
      Accounts source source.length (pieces ++ out) := by
  induction rest generalizing done s pieces with
  | nil =>
    obtain rfl : source = done := hsource.trans (List.append_nil done)
    exact ⟨held source source.length, h.flushed_eq, h.accounts⟩
  | cons line rest ih =>
    have hline : lineAt source done.length = line := by simp [lineAt, hsource]
    have hrest : source = (done ++ [line]) ++ rest := by simp [hsource]
    have hnext := @ih (done ++ [line]) hrest
    rw [List.length_append, List.length_singleton] at hnext
    cases hempty : line.isEmpty with
    | true =>
      rw [List.filter_cons_of_neg (by simp [hempty])]
      exact hnext (h.blank (hline.trans (List.isEmpty_iff.1 hempty)))
    | false =>
      rw [List.filter_cons_of_pos (by simp [hempty]), run]
      obtain ⟨written, hwritten, hstep⟩ := ledger_step h (by simpa [hline] using hempty)
      rw [hline] at hwritten hstep
      obtain ⟨out, hout, haccounts⟩ := hnext hstep
      rw [List.append_assoc] at haccounts
      exact ⟨written ++ out, by rw [hwritten, hout, List.flatMap_append], haccounts⟩

end

/-! ## Declared names -/

theorem declaredNames_singleton (line : Text) :
    declaredNames [line] = (LineKind.of line).declared?.toList := by
  rw [declaredNames]
  cases hdeclared : (LineKind.of line).declared? <;> simp [hdeclared]

/-- A class is read back by its name. -/
theorem OpenClass.Legible.declaredNames_written {c : OpenClass} (h : c.Legible) :
    declaredNames (c.written.map trim) = [c.name] := by
  by_cases hmembers : c.members = []
  · rw [written, if_pos (by simpa using hmembers), List.map_singleton,
      trim_statement (inked_bareLine h.word), declaredNames_singleton, h.bare]
    rfl
  · have hnone : declaredNames (c.members ++ [['}']]) = [] := by
      rw [declaredNames, List.filterMap_eq_nil_iff, List.forall_mem_append,
        List.forall_mem_singleton, kind_closer]
      refine ⟨fun line hline => ?_, rfl⟩
      rw [(h.members line hline).2]
      rfl
    rw [h.map_trim_written hmembers, declaredNames, List.filterMap_cons, h.header]
    exact congrArg (c.name :: ·) hnone

section

variable {source : List Text}

theorem map_lineAt_range (source : List Text) :
    (List.range source.length).map (lineAt source) = source := by
  apply List.ext_getElem
  · simp
  · intro i _ hi
    simp [lineAt, hi]

/-- The names are those of the lines that declare a class. -/
theorem declaredNames_eq (source : List Text) :
    declaredNames source =
      ((List.range source.length).filter fun i =>
        (LineKind.of (lineAt source i)).declared?.isSome).map (Piece.className source) := by
  conv_lhs => rw [← map_lineAt_range source, declaredNames, List.filterMap_map, Function.comp_def]
  induction List.range source.length with
  | nil => rfl
  | cons i numbers ih =>
    cases hdeclared : (LineKind.of (lineAt source i)).declared? <;>
      simp [hdeclared, Piece.className, ih]

theorem declaredNames_line {n : Nat} (hinked : Inked (lineAt source n)) :
    declaredNames (((Piece.line n).written source).map trim) =
      ((Piece.line n).declarations source).map (Piece.className source) := by
  have hdeclarations : ((Piece.line n).declarations source).map (Piece.className source) =
      (LineKind.of (lineAt source n)).declared?.toList := by
    rw [Piece.declarations]
    cases hdeclared : (LineKind.of (lineAt source n)).declared? <;>
      simp [hdeclared, Piece.className]
  rw [hdeclarations, Piece.written]
  cases hkind : LineKind.of (lineAt source n) with
  | directive =>
    rw [List.map_singleton, hinked.trimmed, declaredNames_singleton, hkind]
  | bare name =>
    rw [List.map_singleton, trim_statement (inked_bareLine (eq_of_kind_bare hkind).1),
      declaredNames_singleton, kind_of_kind_bare hkind]
  | _ => simp only [List.map_singleton, trim_statement hinked, declaredNames_singleton, hkind]

theorem declaredNames_block {n h : Nat} {members : List Nat}
    (hinked : ∀ i, lineAt source i ≠ [] → Inked (lineAt source i))
    (hheader : role source h = .header) (hmembers : members = membersOf source n h) :
    declaredNames (((Piece.block h members).written source).map trim) =
      ((Piece.block h members).declarations source).map (Piece.className source) := by
  obtain ⟨name, hkind⟩ := kind_of_role_header hheader
  obtain ⟨hheaderLine, hbareLine⟩ := kind_of_kind_header hkind
  have hname : Piece.className source h = name := by
    rw [Piece.className, hkind]
    rfl
  have hlines : ∀ line ∈ members.map (lineAt source),
      Inked line ∧ LineKind.of line = .member := by
    rw [List.forall_mem_map, hmembers]
    intro i hi
    obtain ⟨hline, hmember, -⟩ := of_role_member (of_decide_eq_true (List.mem_filter.1 hi).2)
    exact ⟨hinked i hline, hmember⟩
  rw [Piece.written_block, Piece.declarations, List.map_singleton, hname]
  exact OpenClass.Legible.declaredNames_written
    ⟨(eq_of_kind_header hkind).1, hheaderLine, hbareLine, hlines⟩

/-- Pieces that account for the lines of a source declare the classes that the source declares. -/
theorem Accounts.declaredNames_written {pieces : List Piece}
    (h : Accounts source source.length pieces)
    (hinked : ∀ i, lineAt source i ≠ [] → Inked (lineAt source i)) :
    declaredNames ((pieces.flatMap (Piece.written source)).map trim) = declaredNames source := by
  have hpiece : ∀ piece ∈ pieces, declaredNames ((piece.written source).map trim) =
      (piece.declarations source).map (Piece.className source) := by
    intro piece hmem
    cases piece with
    | line n =>
      have halone : n ∈ pieces.flatMap Piece.lines :=
        List.mem_flatMap_of_mem hmem (List.mem_singleton_self n)
      rw [h.alone, List.mem_filter] at halone
      have hline : lineAt source n ≠ [] := by
        intro hblank
        have hrole := of_decide_eq_true halone.2
        rw [role, if_pos hblank] at hrole
        cases hrole
      exact declaredNames_line (hinked n hline)
    | block i members =>
      obtain ⟨hheader, hmembers⟩ := h.blocks i members hmem
      exact declaredNames_block hinked hheader hmembers
    | brace =>
      rw [Piece.written, List.map_singleton, trim_statement inked_closer, declaredNames_singleton,
        kind_closer]
      rfl
  rw [declaredNames_eq source, ← h.declarations, List.map_flatMap, List.map_flatMap,
    declaredNames, List.filterMap_flatMap]
  exact List.flatMap_congr hpiece

end

/-- The lines of a text without the blanks around them. -/
def trimmedLines (code : Text) : List Text := (lines code).map trim

theorem inked_lineAt {code : Text} {n : Nat} (h : lineAt (trimmedLines code) n ≠ []) :
    Inked (lineAt (trimmedLines code) n) := by
  have hmem : lineAt (trimmedLines code) n ∈ trimmedLines code := by
    rw [lineAt, List.getD_eq_getElem?_getD] at h ⊢
    cases hline : (trimmedLines code)[n]? with
    | none => simp [hline] at h
    | some line => exact List.mem_of_getElem? hline
  exact inked_of_mem_inkedLines (List.mem_filter.2 ⟨hmem, by simpa using h⟩)

/-- A rebuilt diagram accounts for the lines of its source: it is written in pieces that hold each
line that is not lost once, and it declares the same classes in the same order. -/
theorem accounts_rebuild (code : Text) :
    (∀ n, (stateBefore (trimmedLines code) n).block = heldClass (trimmedLines code) n) ∧
      ∃ pieces, lines (rebuild code) = pieces.flatMap (Piece.written (trimmedLines code)) ∧
        Accounts (trimmedLines code) (trimmedLines code).length pieces ∧
        declaredNames (trimmedLines (rebuild code)) = declaredNames (trimmedLines code) := by
  refine ⟨block_stateBefore _, ?_⟩
  obtain ⟨pieces, hrun, haccounts⟩ :=
    accounts_run [] (trimmedLines code) rfl (ledger_start (trimmedLines code))
  have hlines : lines (rebuild code) = pieces.flatMap (Piece.written (trimmedLines code)) :=
    (lines_rebuild code).trans hrun
  refine ⟨pieces, hlines, haccounts, ?_⟩
  rw [trimmedLines, hlines]
  exact haccounts.declaredNames_written fun n => inked_lineAt

/-- Two classes of one name keep their own members, and a comment is written before its class. -/
example :
    rebuild "class A \x7b\nx: int\n%% note\nprose\nclass A \x7b\ny: int".toList =
      ("    %% note\n    class A \x7b\n        x: int\n    \x7d\n" ++
        "    class A \x7b\n        y: int\n    \x7d").toList := by
  decide +kernel

end DiagramStudio.ClassBlock
