import DiagramStudio.Proofs.Diagram.Fence
import DiagramStudio.Proofs.Diagram.Source

/-!
# Line ends

A reply may end its lines with a carriage return and a newline. The diagram is extracted before
the line ends are unified, so all searches read the extra characters. They stand where blanks do not
matter: behind a tag, behind the body of a block and around what is trimmed. So extracting commutes
with `crlf`, and unifying the line ends undoes `crlf` afterwards.

## Main definitions

- `Text.crlf`: the text with a carriage return before every newline
-/

namespace DiagramStudio

namespace Text

/-- The text with a carriage return before every newline. -/
def crlf (t : Text) : Text := t.flatMap fun c => if c = '\n' then ['\r', '\n'] else [c]

/-! ## Carriage returns before newlines -/

theorem crlf_append (t u : Text) : crlf (t ++ u) = crlf t ++ crlf u := List.flatMap_append

theorem crlf_newline_cons (t : Text) : crlf ('\n' :: t) = '\r' :: '\n' :: crlf t := rfl

theorem crlf_cons_of_ne {c : Char} (hc : c ≠ '\n') (t : Text) : crlf (c :: t) = c :: crlf t := by
  simp [crlf, hc]

theorem crlf_of_not_mem {t : Text} (h : '\n' ∉ t) : crlf t = t := by
  induction t with
  | nil => rfl
  | cons c t ih =>
    simp only [List.mem_cons, not_or] at h
    rw [crlf_cons_of_ne (Ne.symm h.1), ih h.2]

theorem isBlank_carriageReturn : isBlank '\r' = true := by decide

theorem blank_crlf {w : Text} (hw : ∀ c ∈ w, isBlank c = true) :
    ∀ c ∈ crlf w, isBlank c = true := by
  intro c hc
  obtain ⟨c', hc', hmem⟩ := List.mem_flatMap.1 hc
  split at hmem
  · rcases List.mem_pair.1 hmem with rfl | rfl
    · exact isBlank_carriageReturn
    · exact isBlank_newline
  · rw [List.mem_singleton.1 hmem]
    exact hw c' hc'

theorem ne_newline_of_not_blank {c : Char} (hc : isBlank c = false) : c ≠ '\n' := by
  rintro rfl
  exact absurd hc (by decide)

theorem Trimmed.crlf {t : Text} (h : Trimmed t) : Trimmed (crlf t) where
  head c hc := by
    cases t with
    | nil => simp [Text.crlf] at hc
    | cons d t =>
      have hd := h.head d rfl
      rw [crlf_cons_of_ne (ne_newline_of_not_blank hd)] at hc
      rwa [← Option.some.inj hc]
  last c hc := by
    cases t using List.reverseRecOn with
    | nil => simp [Text.crlf] at hc
    | append_singleton t d =>
      have hd := h.last d (by simp)
      rw [crlf_append, crlf_of_not_mem (t := [d]) (by simpa using (ne_newline_of_not_blank hd).symm),
        List.getLast?_concat] at hc
      rwa [← Option.some.inj hc]

theorem trim_crlf (t : Text) : trim (crlf t) = crlf (trim t) := by
  obtain ⟨w, v, hw, hv, ht, htrim⟩ := exists_trim t
  conv_lhs => rw [ht, crlf_append, crlf_append]
  exact trim_append (blank_crlf hw) (blank_crlf hv) htrim.crlf

/-! ## Searching and cutting -/

theorem stripStart?_crlf {start : Text} (hn : '\n' ∉ start) (hr : '\r' ∉ start) (t : Text) :
    stripStart? start (crlf t) = (stripStart? start t).map crlf := by
  induction start generalizing t with
  | nil => simp [stripStart?]
  | cons s start ih =>
    simp only [List.mem_cons, not_or] at hn hr
    cases t with
    | nil => rfl
    | cons c t =>
      by_cases hc : c = '\n'
      · subst hc
        rw [crlf_newline_cons, stripStart?, stripStart?, if_neg (Ne.symm hr.1),
          if_neg (Ne.symm hn.1)]
        rfl
      · rw [crlf_cons_of_ne hc, stripStart?, stripStart?, ih hn.2 hr.2]
        split
        · rfl
        · rfl

/-- A cut at the end of a line leaves the carriage return before it. -/
theorem cut?_newline_crlf {mark : Text} (hn : '\n' ∉ mark) (hr : '\r' ∉ mark) (t : Text) :
    cut? ('\n' :: mark) (crlf t) =
      (cut? ('\n' :: mark) t).map fun parts => (crlf parts.1 ++ ['\r'], crlf parts.2) := by
  induction t with
  | nil => rfl
  | cons c t ih =>
    have skip : ∀ d u, d ≠ '\n' → cut? ('\n' :: mark) (d :: u) =
        (cut? ('\n' :: mark) u).map fun parts => (d :: parts.1, parts.2) := by
      intro d u hd
      rw [cut?, stripStart?, if_neg hd.symm]
    by_cases hc : c = '\n'
    · -- The cut misses the carriage return first and may then be at the newline.
      subst hc
      rw [crlf_newline_cons, skip '\r' _ (by decide), cut?, cut?, stripStart?, stripStart?,
        if_pos rfl, if_pos rfl, stripStart?_crlf hn hr, ih]
      cases stripStart? mark t with
      | some rest => rfl
      | none =>
        rw [Option.map_none, Option.map_map, Option.map_map, Option.map_map]
        rfl
    · rw [crlf_cons_of_ne hc, skip c _ hc, skip c _ hc, ih, Option.map_map, Option.map_map]
      congr 1
      funext parts
      rw [Function.comp_apply, Function.comp_apply, crlf_cons_of_ne hc]
      rfl

end Text

open Text

/-! ## Extracting -/

namespace Fence

theorem trim_append_carriageReturn (t : Text) : trim (t ++ ['\r']) = trim t :=
  trim_append_blank (by simp [isBlank_carriageReturn]) t

theorem stripStart?_mark_crlf (t : Text) :
    stripStart? mark (crlf t) = (stripStart? mark t).map crlf :=
  stripStart?_crlf (by decide) (by decide) t

/-- The same fence closes the body, up to the blanks before it. -/
theorem closedBody?_crlf (body : Text) :
    (closedBody? (crlf body)).map trim = ((closedBody? body).map trim).map crlf := by
  rw [closedBody?, closedBody?, stripStart?_mark_crlf]
  cases stripStart? mark body with
  | some _ => rfl
  | none =>
    rw [Option.map_none]
    dsimp only
    rw [cut?_newline_crlf (by decide) (by decide), Option.map_map, Option.map_map, Option.map_map,
      Option.map_map]
    congr 1
    funext parts
    simp only [Function.comp_apply, trim_append_carriageReturn, trim_crlf]

/-- A text is taken apart at its fences and the characters that start none. -/
theorem marks_induction {motive : Text → Prop} (nil : motive [])
    (fence : ∀ rest, motive rest → motive (mark ++ rest))
    (char : ∀ c t, ¬ mark <+: c :: t → motive t → motive (c :: t)) (t : Text) : motive t := by
  match t with
  | [] => exact nil
  | c :: t =>
    by_cases h : mark <+: c :: t
    · obtain ⟨rest, hrest⟩ := h
      have hlength := congrArg List.length hrest
      rw [← hrest]
      exact fence rest (marks_induction nil fence char rest)
    · exact char c t h (marks_induction nil fence char t)
termination_by t.length
decreasing_by all_goals simp only [mark, List.length_append, List.length_cons] at *; omega

theorem mark_prefix_crlf_iff (t : Text) : mark <+: crlf t ↔ mark <+: t := by
  rw [← not_iff_not, ← stripStart?_eq_none_iff, ← stripStart?_eq_none_iff, stripStart?_mark_crlf,
    Option.map_eq_none_iff]

/-- The cut is at the first newline. -/
theorem newline_not_mem_of_cut? {t before after : Text}
    (h : cut? ['\n'] t = some (before, after)) : '\n' ∉ before := by
  by_cases hn : '\n' ∈ t
  · obtain ⟨line, rest, rfl, hline⟩ := List.eq_append_cons_of_mem hn
    rw [cut?_append_cons hline] at h
    obtain ⟨rfl, -⟩ := Prod.mk.inj (Option.some.inj h)
    exact hline
  · rw [cut?_of_not_mem hn] at h
    simp at h

/-- The search finds the same block, up to the blanks around its body. -/
theorem block?_crlf (accepts : Text → Bool) (t : Text) :
    (block? accepts (crlf t)).map trim = ((block? accepts t).map trim).map crlf := by
  induction t using marks_induction with
  | nil => rfl
  | fence rest ih =>
    have hmark : crlf mark = mark := rfl
    rw [crlf_append, hmark, block?_mark, block?_mark, cut?_newline_crlf (by simp) (by simp)]
    cases hcut : cut? ['\n'] rest with
    | none => rfl
    | some parts =>
      obtain ⟨tag, body⟩ := parts
      simp only [Option.map_some]
      -- The tag stands on one line, so the carriage return behind it is all that is added.
      have htag : trim (crlf tag ++ ['\r']) = trim tag := by
        rw [trim_append_carriageReturn, crlf_of_not_mem]
        exact newline_not_mem_of_cut? hcut
      have hbody := closedBody?_crlf body
      rw [htag]
      cases accepts (trim tag) with
      | false => exact ih
      | true =>
        simp only [if_true]
        cases hclosed : closedBody? body with
        | none =>
          rw [hclosed, Option.map_none, Option.map_none, Option.map_eq_none_iff] at hbody
          rw [hbody]
          exact ih
        | some found =>
          rw [hclosed, Option.map_some, Option.map_some, Option.map_eq_some_iff] at hbody
          obtain ⟨found', hfound, htrim⟩ := hbody
          rw [hfound]
          simp [htrim]
  | char c t hc ih =>
    rw [block?_cons_of_unmarked hc]
    by_cases hn : c = '\n'
    · -- Neither of the two characters starts a fence.
      subst hn
      have hreturn : ¬ mark <+: '\r' :: '\n' :: crlf t := by simp [mark]
      have hnewline : ¬ mark <+: '\n' :: crlf t := by simp [mark]
      rw [crlf_newline_cons, block?_cons_of_unmarked hreturn, block?_cons_of_unmarked hnewline, ih]
    · have hc' : ¬ mark <+: c :: crlf t := by
        rwa [← crlf_cons_of_ne hn, mark_prefix_crlf_iff]
      rw [crlf_cons_of_ne hn, block?_cons_of_unmarked hc', ih]

/-- Extracting keeps the line ends of a reply and depends on nothing else of them. -/
theorem extract_crlf (reply : Text) : extract (crlf reply) = crlf (extract reply) := by
  have hdiagram := block?_crlf (fun tag => lowercase tag == diagramTag) reply
  have huntagged := block?_crlf List.isEmpty reply
  have hextract : ∀ t, extract t =
      (((block? (fun tag => lowercase tag == diagramTag) t).map trim).orElse fun _ =>
        (block? List.isEmpty t).map trim).getD (trim t) := by
    intro t
    rw [extract]
    cases block? (fun tag => lowercase tag == diagramTag) t with
    | some body => rfl
    | none => cases block? List.isEmpty t <;> rfl
  rw [hextract, hextract, hdiagram, huntagged, trim_crlf]
  cases (block? (fun tag => lowercase tag == diagramTag) reply).map trim with
  | some body => rfl
  | none => cases (block? List.isEmpty reply).map trim <;> rfl

theorem closedBody?_isInfix {body found : Text} (h : closedBody? body = some found) :
    found <:+: body := by
  rw [closedBody?] at h
  split at h
  · obtain rfl := Option.some.inj h
    exact List.nil_infix
  · obtain ⟨parts, hparts, rfl⟩ := Option.map_eq_some_iff.1 h
    exact ⟨[], '\n' :: mark ++ parts.2, by simpa using (cut?_eq_some hparts).symm⟩

theorem block?_isInfix {accepts : Text → Bool} {t found : Text}
    (h : block? accepts t = some found) : found <:+: t := by
  induction t using marks_induction with
  | nil => simp [block?] at h
  | fence rest ih =>
    have hrest : rest <:+: mark ++ rest := ⟨mark, [], by simp⟩
    rw [block?_mark] at h
    split at h
    · simp at h
    · next tag body hcut =>
      split at h
      · next hclosed =>
        obtain rfl := Option.some.inj h
        have hbody : body <:+: rest := ⟨tag ++ ['\n'], [], by simpa using (cut?_eq_some hcut).symm⟩
        split at hclosed
        · exact ((closedBody?_isInfix hclosed).trans hbody).trans hrest
        · simp at hclosed
      · exact (ih h).trans hrest
  | char c t hc ih =>
    rw [block?_cons_of_unmarked hc] at h
    exact (ih h).trans ⟨[c], [], by simp⟩

/-- The diagram stands in the reply as it is. -/
theorem extract_isInfix (reply : Text) : extract reply <:+: reply := by
  rw [extract]
  split
  · next body h => exact (trim_isInfix body).trans (block?_isInfix h)
  · split
    · next body h => exact (trim_isInfix body).trans (block?_isInfix h)
    · exact trim_isInfix reply

end Fence

/-! ## Repairing -/

namespace Separator

theorem unifyLineEnds_crlf {t : Text} (h : '\r' ∉ t) :
    unifyLineEnds (crlf t) = unifyLineEnds t := by
  induction t with
  | nil => rfl
  | cons c t ih =>
    simp only [List.mem_cons, not_or] at h
    have hc := unifyLineEnds_cons_of_ne (Ne.symm h.1)
    by_cases hn : c = '\n'
    · subst hn
      rw [crlf_newline_cons, unifyLineEnds, ih h.2, hc]
    · rw [crlf_cons_of_ne hn, hc, hc, ih h.2]

theorem normalize_crlf {t : Text} (h : '\r' ∉ t) : normalize (crlf t) = normalize t := by
  rw [normalize, unifyLineEnds_crlf h, normalize]

end Separator

namespace Repair

/-- Carriage returns before the newlines of a reply make no difference to its diagram. -/
theorem repair_extract_crlf {reply : Text} (h : '\r' ∉ reply) :
    repair (Fence.extract (crlf reply)) = repair (Fence.extract reply) := by
  have hextract : '\r' ∉ Fence.extract reply :=
    fun hmem => h ((Fence.extract_isInfix reply).subset hmem)
  have hsource : source (crlf (Fence.extract reply)) = source (Fence.extract reply) := by
    rw [source, Separator.normalize_crlf hextract, source]
  rw [Fence.extract_crlf, repair_eq, hsource, repair_eq]

theorem repair_extract_crlf_fenced :
    '\r' ∉ "Here:\n``` Mermaid \n\ngraph TD\n  A[x\n y]\n```\nDone.\n".toList ∧
      repair (Fence.extract
          (crlf "Here:\n``` Mermaid \n\ngraph TD\n  A[x\n y]\n```\nDone.\n".toList)) =
        repair (Fence.extract "Here:\n``` Mermaid \n\ngraph TD\n  A[x\n y]\n```\nDone.\n".toList) := by
  have h : '\r' ∉ "Here:\n``` Mermaid \n\ngraph TD\n  A[x\n y]\n```\nDone.\n".toList := by decide
  exact ⟨h, repair_extract_crlf h⟩

end Repair

end DiagramStudio
