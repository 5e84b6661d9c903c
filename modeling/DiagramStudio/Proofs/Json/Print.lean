import DiagramStudio.Proofs.Json.Grammar
import DiagramStudio.Proofs.Json.Scalar

/-!
# Values written and read

What is printed for a value is derived by the grammar as a text of that value, in either layout,
and so it is read back. The layouts differ in blanks, which the grammar allows around items, keys
and values.

## Main definitions

- `Json.Value.Written`: what is written for a value is a text of it
-/

namespace DiagramStudio.Json

open Text

namespace Style

theorem isSpace_lineStart (style : Style) (level : Nat) :
    ∀ c ∈ style.lineStart level, isSpace c = true := by
  intro c h
  cases style with
  | compact => simp [lineStart] at h
  | indented =>
    rcases List.mem_cons.1 h with rfl | h
    · decide
    · rw [List.eq_of_mem_replicate h]
      decide

theorem exists_colon_eq_cons (style : Style) :
    ∃ w, style.colon = ':' :: w ∧ ∀ c ∈ w, isSpace c = true := by
  cases style with
  | compact => exact ⟨[], rfl, by simp⟩
  | indented => exact ⟨[' '], rfl, by simp [isSpace]⟩

end Style

/-! ## Induction on values -/

/-- Induction where the hypotheses of an array and of an object speak of its parts. -/
@[elab_as_elim]
theorem Value.induction {motive : Value → Prop} (null : motive .null)
    (bool : ∀ b, motive (.bool b)) (number : ∀ n, motive (.number n))
    (string : ∀ s, motive (.string s))
    (array : ∀ items, (∀ item ∈ items, motive item) → motive (.array items))
    (object : ∀ members, (∀ member ∈ members, motive member.2) → motive (.object members)) :
    ∀ v, motive v
  | .null => null
  | .bool b => bool b
  | .number n => number n
  | .string s => string s
  | .array items =>
    array items fun item _ => Value.induction null bool number string array object item
  | .object members =>
    object members fun member _ =>
      Value.induction null bool number string array object member.2
termination_by v => v
decreasing_by
  · have := List.sizeOf_lt_of_mem ‹item ∈ items›
    simp only [Value.array.sizeOf_spec]
    omega
  · have := List.sizeOf_lt_of_mem ‹member ∈ members›
    obtain ⟨key, value⟩ := member
    simp only [Prod.mk.sizeOf_spec] at this
    simp only [Value.object.sizeOf_spec]
    omega

/-! ## Values -/

/-- What is written for a value is a text of that value, at every level. -/
def Value.Written (style : Style) (v : Value) : Prop :=
  ∀ level, Derives (v.write style level) (.value v.source)

variable {style : Style}

theorem written_bool (b : Bool) : (Value.bool b).Written style := by
  intro level
  cases b with
  | true => exact .yes
  | false => exact .no

/-- Items are written between blanks, with a comma between two of them. -/
theorem derives_items {item : Value} {rest : List Value} (h : ∀ v ∈ item :: rest, v.Written style)
    (level : Nat) {w v : Text} (hw : ∀ c ∈ w, isSpace c = true)
    (hv : ∀ c ∈ v, isSpace c = true) :
    Derives (w ++ (item.write style level ++ (Value.writeItems style rest level ++ v)))
      (.items (item.source :: Value.itemSources rest)) := by
  have hitem := h item (List.mem_cons_self ..) level
  induction rest generalizing item w with
  | nil => exact .lastItem (.spaced hw hv hitem)
  | cons next rest ih =>
    have hrest := ih (fun v hv => h v (List.mem_cons_of_mem item hv))
      (style.isSpace_lineStart level) (h next (by simp) level)
    have hspaced := Derives.spaced (v := []) hw (by simp) hitem
    simpa [Value.writeItems, Value.itemSources] using Derives.item hspaced hrest

theorem written_array {items : List Value} (h : ∀ item ∈ items, item.Written style) :
    (Value.array items).Written style := by
  intro level
  cases items with
  | nil => exact .emptyArray (w := []) (by simp)
  | cons item rest =>
    have hitems := derives_items h (level + 1) (style.isSpace_lineStart (level + 1))
      (style.isSpace_lineStart level)
    simpa [Value.write, Value.source, Value.itemSources] using Derives.array hitems

/-- A member is written between blanks, with the blanks of the colon before its value. -/
theorem derives_member {member : String × Value} (h : member.2.Written style) (level : Nat)
    {w v : Text} (hw : ∀ c ∈ w, isSpace c = true) (hv : ∀ c ∈ v, isSpace c = true) :
    Derives (w ++ (Value.writeMember style member level ++ v))
      (.member (Value.memberSource member).1 (Value.memberSource member).2) := by
  obtain ⟨key, value⟩ := member
  obtain ⟨space, hcolon, hspace⟩ := style.exists_colon_eq_cons
  have hmember := Derives.member (v := []) hw (spellsString_writeString key) (by simp)
    (.spaced hspace hv (h level))
  simpa [Value.writeMember, Value.memberSource, hcolon] using hmember

theorem derives_members {member : String × Value} {rest : List (String × Value)}
    (h : ∀ m ∈ member :: rest, m.2.Written style) (level : Nat) {w v : Text}
    (hw : ∀ c ∈ w, isSpace c = true) (hv : ∀ c ∈ v, isSpace c = true) :
    Derives (w ++ (Value.writeMember style member level ++
        (Value.writeMembers style rest level ++ v)))
      (.members (Value.memberSource member :: Value.memberSources rest)) := by
  have hvalue := h member (List.mem_cons_self ..)
  induction rest generalizing member w with
  | nil => exact .lastMember (derives_member hvalue level hw hv)
  | cons next rest ih =>
    have hrest := ih (fun m hm => h m (List.mem_cons_of_mem _ hm))
      (style.isSpace_lineStart level) (h next (by simp))
    have hmember := derives_member (v := []) hvalue level hw (by simp)
    simpa [Value.writeMembers, Value.memberSources] using Derives.moreMembers hmember hrest

theorem written_object {members : List (String × Value)}
    (h : ∀ member ∈ members, member.2.Written style) : (Value.object members).Written style := by
  intro level
  cases members with
  | nil => exact .emptyObject (w := []) (by simp)
  | cons member rest =>
    have hmembers := derives_members h (level + 1) (style.isSpace_lineStart (level + 1))
      (style.isSpace_lineStart level)
    simpa [Value.write, Value.source, Value.memberSources] using Derives.object hmembers

theorem written (style : Style) (v : Value) : v.Written style := by
  induction v using Value.induction with
  | null => exact fun _ => .null
  | bool b => exact written_bool b
  | number n => exact fun _ => .number n.spellsNumber_write
  | string s => exact fun _ => .string (spellsString_writeString s)
  | array items ih => exact written_array ih
  | object members ih => exact written_object ih

/-- What is printed for a value is read back; blanks may follow it. -/
theorem read?_print_append (style : Style) (v : Value) {w : Text}
    (hw : ∀ c ∈ w, isSpace c = true) : read? (v.print style ++ w) = some v.source :=
  read?_eq_some_iff.2 ((written style v 0).append_space hw)

/-- What is printed for a value is read back. -/
theorem read?_print (style : Style) (v : Value) : read? (v.print style) = some v.source :=
  read?_eq_some_iff.2 (written style v 0)

end DiagramStudio.Json
