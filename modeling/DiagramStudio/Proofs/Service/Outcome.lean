import DiagramStudio.Proofs.Text.Blank
import DiagramStudio.Service.Generator

/-!
# Outcomes of requests

Whatever the model does, a request ends with a diagram, and its result tells what happened. The
calls of a model are made visible by watching it: a watched model answers as before and keeps a
record of what it was asked and what it answered.

## Main definitions

- `ChatModel.watched`, `Generator.watched`: models and generators with a record of the calls
- `Generator.Reported`: what the result of a request says, by the calls that were made for it
-/

namespace DiagramStudio

open Text

/-! ## Watched models -/

/-- One call of a model. -/
structure Call where
  prompt : Prompt
  answer : Answer

/-- A call brought a completion. -/
def Succeeds (calls : List Call) (c : Completion) : Prop := ∃ call ∈ calls, call.answer = .ok c

/-- A call brought an error. -/
def Fails (calls : List Call) : Prop := ∃ call ∈ calls, ∃ e, call.answer = .error e

variable {σ : Type}

/-- The model with a record of its calls. -/
def ChatModel.watched (m : ChatModel σ) : ChatModel (σ × List Call) where
  ask p s :=
    let (answer, state) := m.ask p s.1
    (answer, state, s.2 ++ [⟨p, answer⟩])

/-- The generator with a record of the calls of its model. -/
def Generator.watched (g : Generator σ) : Generator (σ × List Call) :=
  ⟨g.model.map ChatModel.watched, g.options⟩

namespace DiagramRequest

/-- A description without ink leaves nothing to ask about. -/
theorem isEmpty_subject (r : DiagramRequest) : r.subject.isEmpty = blank r.description.toList := by
  rw [Bool.eq_iff_iff, List.isEmpty_iff, blank, List.all_eq_true, subject]
  exact ⟨blank_of_trim_eq_nil, trim_of_blank⟩

end DiagramRequest

namespace Generator

variable (g : Generator σ) (r : DiagramRequest) (state : σ)

/-! ## The three ways of a request

A blank description is refused, a missing model is reported, and only then is the model asked. -/

theorem generate_of_blank (h : blank r.description.toList = true) :
    g.generate r state = (r.fail g.options .emptyDescription, state) := by
  rw [generate, consult, r.isEmpty_subject, if_pos h]
  rfl

theorem generate_of_none (h : blank r.description.toList = false) (hm : g.model = none) :
    g.generate r state = (r.fail g.options .notConfigured, state) := by
  rw [generate, consult, r.isEmpty_subject, h, hm]
  rfl

theorem generate_of_some (h : blank r.description.toList = false) {m : ChatModel σ}
    (hm : g.model = some m) :
    g.generate r state =
      (r.conclude g.options ((m.ask (r.prompt g.options) state).1.mapError .model),
        (m.ask (r.prompt g.options) state).2) := by
  rw [generate, consult, r.isEmpty_subject, h, hm]
  rfl

theorem generateAll_cons (rest : List DiagramRequest) :
    g.generateAll (r :: rest) state =
      ((g.generate r state).1 :: (g.generateAll rest (g.generate r state).2).1,
        (g.generateAll rest (g.generate r state).2).2) := rfl

/-- The calls that are made for a request. -/
def calls : List Call := (g.watched.generate r (state, [])).2.2

variable {g r}

theorem model_watched_of_none (hm : g.model = none) : g.watched.model = none := by
  rw [watched, hm]
  rfl

theorem model_watched_of_some {m : ChatModel σ} (hm : g.model = some m) :
    g.watched.model = some m.watched := by
  rw [watched, hm]
  rfl

theorem calls_of_blank (h : blank r.description.toList = true) : g.calls r state = [] := by
  rw [calls, generate_of_blank _ _ _ h]

theorem calls_of_none (h : blank r.description.toList = false) (hm : g.model = none) :
    g.calls r state = [] := by
  rw [calls, generate_of_none _ _ _ h (model_watched_of_none hm)]

theorem calls_of_some (h : blank r.description.toList = false) {m : ChatModel σ}
    (hm : g.model = some m) :
    g.calls r state = [⟨r.prompt g.options, (m.ask (r.prompt g.options) state).1⟩] := by
  rw [calls, generate_of_some _ _ _ h (model_watched_of_some hm)]
  rfl

variable (g r) in
/-- Watching changes neither the result nor what becomes of the model. -/
theorem generate_watched :
    g.watched.generate r (state, []) =
      ((g.generate r state).1, (g.generate r state).2, g.calls r state) := by
  cases h : blank r.description.toList with
  | true =>
    rw [calls_of_blank _ h, generate_of_blank _ _ _ h, generate_of_blank _ _ _ h]
    rfl
  | false =>
    cases hm : g.model with
    | none =>
      rw [calls_of_none _ h hm, generate_of_none _ _ _ h hm,
        generate_of_none _ _ _ h (model_watched_of_none hm)]
      rfl
    | some m =>
      rw [calls_of_some _ h hm, generate_of_some _ _ _ h hm,
        generate_of_some _ _ _ h (model_watched_of_some hm)]
      rfl

/-! ## Results -/

variable (g r) in
/-- What a result says of its request, given the calls that were made for it. -/
structure Reported (calls : List Call) (result : DiagramResult) : Prop where
  /-- There is always a diagram. -/
  diagram : result.diagramCode ≠ ""
  /-- A usable reply is repaired. -/
  repaired : ∀ c, Succeeds calls c → Repair.repair (Fence.extract c.text.toList) ≠ [] →
    result.diagramCode = String.ofList (Repair.repair (Fence.extract c.text.toList))
  /-- In every other case the fallback takes its place. -/
  fallback : (∀ c, Succeeds calls c → Repair.repair (Fence.extract c.text.toList) = []) →
    result.diagramCode = String.ofList (Fallback.diagram r.description.toList)
  status : result.status = .error ↔ blank r.description.toList = true ∨
    (Fails calls ∨ g.model = none) ∧ g.options.fallbackOnError = false
  error : result.error.isSome = true ↔ result.status = .error
  model : ∀ name, result.model = some name ↔ name ≠ "" ∧ ∃ c, Succeeds calls c ∧ c.model = name
  /-- A configured model is asked once, unless the description is blank. -/
  called : calls.map Call.prompt =
    if blank r.description.toList = false ∧ g.model.isSome = true then [r.prompt g.options] else []

theorem ofList_ne_empty {t : Text} (h : t ≠ []) : String.ofList t ≠ "" := by
  intro hempty
  apply h
  rw [← String.toList_ofList (l := t), hempty]
  rfl

theorem ofList_fallback_ne_empty (description : Text) :
    String.ofList (Fallback.diagram description) ≠ "" :=
  ofList_ne_empty (by simp [Fallback.diagram, Fallback.topology])

/-- A request without a reply reports the error, unless that is forgiven. -/
theorem reported_fail {calls : List Call} {e : DiagramError}
    (hcalls : ∀ c, ¬ Succeeds calls c) (hblank : blank r.description.toList = !e.forgivable)
    (hfailed : e.forgivable = true → Fails calls ∨ g.model = none)
    (hcalled : calls.map Call.prompt =
      if blank r.description.toList = false ∧ g.model.isSome = true then [r.prompt g.options]
      else []) :
    g.Reported r calls (r.fail g.options e) where
  diagram := ofList_fallback_ne_empty _
  repaired c hc := absurd hc (hcalls c)
  fallback _ := rfl
  status := by
    rw [hblank]
    cases he : e.forgivable with
    | false => simp [DiagramRequest.fail, he]
    | true => simp [DiagramRequest.fail, he, hfailed he]
  error := by simp [DiagramRequest.fail]
  model := by simp [DiagramRequest.fail, hcalls]
  called := hcalled

theorem succeeds_singleton {p : Prompt} {c c' : Completion} :
    Succeeds [⟨p, .ok c⟩] c' ↔ c' = c := by
  simp [Succeeds, eq_comm]

variable (r) in
theorem diagramCode_succeed (c : Completion) :
    (r.succeed c).diagramCode = String.ofList
      (if (Repair.repair (Fence.extract c.text.toList)).isEmpty then
        Fallback.diagram r.description.toList
      else Repair.repair (Fence.extract c.text.toList)) := rfl

/-- A request with a reply is a success, whether there is a diagram in the reply or not. -/
theorem reported_succeed (h : blank r.description.toList = false) {m : ChatModel σ}
    (hm : g.model = some m) (c : Completion) :
    g.Reported r [⟨r.prompt g.options, .ok c⟩] (r.succeed c) where
  diagram := by
    rw [diagramCode_succeed]
    split
    · exact ofList_fallback_ne_empty _
    · next hne => exact ofList_ne_empty fun hempty => hne (List.isEmpty_iff.2 hempty)
  repaired c' hc' hne := by
    obtain rfl := succeeds_singleton.1 hc'
    rw [diagramCode_succeed, if_neg fun hempty => hne (List.isEmpty_iff.1 hempty)]
  fallback hempty := by
    rw [diagramCode_succeed, if_pos (List.isEmpty_iff.2 (hempty c (succeeds_singleton.2 rfl)))]
  status := by simp [DiagramRequest.succeed, h, hm, Fails]
  error := by simp [DiagramRequest.succeed]
  model name := by
    simp only [DiagramRequest.succeed, succeeds_singleton, exists_eq_left,
      Option.ite_none_left_eq_some, Option.some.injEq]
    -- The name is reported unless it is empty.
    constructor
    · rintro ⟨hne, rfl⟩
      exact ⟨hne, rfl⟩
    · rintro ⟨hne, rfl⟩
      exact ⟨hne, rfl⟩
  called := by simp [h, hm]

variable (g r) in
/-- Every result tells what happened to its request. -/
theorem reported_generate :
    g.watched.generate r (state, []) =
        ((g.generate r state).1, (g.generate r state).2, g.calls r state) ∧
      g.Reported r (g.calls r state) (g.generate r state).1 := by
  refine ⟨g.generate_watched r state, ?_⟩
  cases h : blank r.description.toList with
  | true =>
    rw [calls_of_blank _ h, generate_of_blank _ _ _ h]
    exact reported_fail (by simp [Succeeds]) h (by simp [DiagramError.forgivable]) (by simp [h])
  | false =>
    cases hm : g.model with
    | none =>
      rw [calls_of_none _ h hm, generate_of_none _ _ _ h hm]
      exact reported_fail (by simp [Succeeds]) h (fun _ => Or.inr hm) (by simp [hm])
    | some m =>
      rw [calls_of_some _ h hm, generate_of_some _ _ _ h hm]
      cases hanswer : (m.ask (r.prompt g.options) state).1 with
      | error e =>
        exact reported_fail (by simp [Succeeds]) h (fun _ => Or.inl (by simp [Fails]))
          (by simp [h, hm])
      | ok c => exact reported_succeed h hm c

end Generator

end DiagramStudio
