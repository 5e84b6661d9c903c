import DiagramStudio.Proofs.Service.Outcome

/-!
# Runs of requests

One generator handles requests in order. Its model is a script of answers, of which it gives one
per call. In a run each request that asks takes the next answer, whatever came of the requests
before it, and a request with a blank description takes none.

## Main definitions

- `DiagramRequest.asks`: true of the requests that the model is asked for
- `Generator.alone`: the result of a request that is the only one
-/

namespace DiagramStudio

open Text

/-- True of a request that the model is asked for. -/
def DiagramRequest.asks (r : DiagramRequest) : Bool := !blank r.description.toList

namespace Generator

/-! ## Runs -/

section

variable {σ : Type} (g : Generator σ)

theorem generateAll_append (before after : List DiagramRequest) (state : σ) :
    g.generateAll (before ++ after) state =
      ((g.generateAll before state).1 ++ (g.generateAll after (g.generateAll before state).2).1,
        (g.generateAll after (g.generateAll before state).2).2) := by
  induction before generalizing state with
  | nil => rfl
  | cons r before ih =>
    simp only [List.cons_append, generateAll_cons]
    rw [ih]

theorem length_generateAll (requests : List DiagramRequest) (state : σ) :
    (g.generateAll requests state).1.length = requests.length := by
  induction requests generalizing state with
  | nil => rfl
  | cons r rest ih => rw [generateAll_cons, List.length_cons, List.length_cons, ih]

/-- What stands in the results for a request is what came of it in the state that was reached. -/
theorem getElem?_generateAll (before : List DiagramRequest) (r : DiagramRequest)
    (after : List DiagramRequest) (state : σ) :
    (g.generateAll (before ++ r :: after) state).1[before.length]? =
      some (g.generate r (g.generateAll before state).2).1 := by
  rw [generateAll_append, generateAll_cons, ← length_generateAll g before state]
  simp

end

/-! ## Scripts -/

variable (options : Options)

/-- A generator whose model is a script. -/
def scripted : Generator Script := ⟨some Script.chatModel, options⟩

/-- The result of a request that is the only one, with the answer that the script holds for it. -/
def alone (r : DiagramRequest) (answer : Option Answer) : DiagramResult :=
  ((scripted options).generate r ⟨answer.toList, []⟩).1

/-- The answer to a call when the script is `answers`. -/
theorem ask_script (p : Prompt) (answers : List Answer) (prompts : List Prompt) :
    Script.chatModel.ask p ⟨answers, prompts⟩ =
      (answers.head?.getD (.ok Script.empty), ⟨answers.tail, prompts ++ [p]⟩) := by
  cases answers <;> rfl

theorem generate_of_asks {r : DiagramRequest} (h : r.asks = true) (answers : List Answer)
    (prompts : List Prompt) :
    (scripted options).generate r ⟨answers, prompts⟩ =
      (r.conclude options ((answers.head?.getD (.ok Script.empty)).mapError .model),
        ⟨answers.tail, prompts ++ [r.prompt options]⟩) := by
  rw [DiagramRequest.asks, Bool.not_eq_true'] at h
  rw [generate_of_some _ _ _ h (m := Script.chatModel) rfl, ask_script]
  rfl

theorem generate_of_not_asks {r : DiagramRequest} (h : r.asks = false) (script : Script) :
    (scripted options).generate r script = (r.fail options .emptyDescription, script) := by
  rw [DiagramRequest.asks, Bool.not_eq_false'] at h
  rw [generate_of_blank _ _ _ h]
  rfl

/-- A request that asks takes the first answer; any other leaves the script as it is. -/
theorem generate_scripted (r : DiagramRequest) (answers : List Answer) (prompts : List Prompt) :
    (scripted options).generate r ⟨answers, prompts⟩ =
      if r.asks then
        (alone options r answers.head?, ⟨answers.tail, prompts ++ [r.prompt options]⟩)
      else (alone options r none, ⟨answers, prompts⟩) := by
  cases h : r.asks with
  | true =>
    rw [if_pos rfl, alone, generate_of_asks options h, generate_of_asks options h]
    cases answers <;> rfl
  | false =>
    rw [if_neg Bool.false_ne_true, alone, generate_of_not_asks options h,
      generate_of_not_asks options h]

/-- After a run as many answers are gone as requests have asked, and each of them was asked for with
the prompt of its request. -/
theorem script_generateAll (requests : List DiagramRequest) (answers : List Answer)
    (prompts : List Prompt) :
    ((scripted options).generateAll requests ⟨answers, prompts⟩).2 =
      ⟨answers.drop (requests.countP DiagramRequest.asks),
        prompts ++ (requests.filter DiagramRequest.asks).map (DiagramRequest.prompt options)⟩ := by
  induction requests generalizing answers prompts with
  | nil => simp [generateAll]
  | cons r rest ih =>
    rw [generateAll_cons, generate_scripted]
    cases h : r.asks with
    | true =>
      rw [if_pos rfl, ih, List.countP_cons_of_pos h, List.filter_cons_of_pos h, List.map_cons,
        List.drop_tail, List.append_assoc, List.singleton_append]
    | false =>
      rw [if_neg Bool.false_ne_true, ih, List.countP_cons_of_neg (by simp [h]),
        List.filter_cons_of_neg (by simp [h])]

/-- Wherever a request stands in a run, it takes the answer whose place in the script is the number
of requests that asked before it, or none if it does not ask; its result is the one that it has
alone with that answer. -/
theorem generateAll_scripted (answers : List Answer) (before : List DiagramRequest)
    (r : DiagramRequest) (after : List DiagramRequest) :
    let g := scripted options
    let asked := before.countP DiagramRequest.asks
    let reached := (g.generateAll before ⟨answers, []⟩).2
    reached = ⟨answers.drop asked,
        (before.filter DiagramRequest.asks).map (DiagramRequest.prompt options)⟩ ∧
      g.calls r reached =
        (if r.asks then [⟨r.prompt options, answers[asked]?.getD (.ok Script.empty)⟩] else []) ∧
      (g.generate r reached).2.answers = answers.drop (if r.asks then asked + 1 else asked) ∧
      (g.generateAll (before ++ r :: after) ⟨answers, []⟩).1[before.length]? =
        some (alone options r (if r.asks then answers[asked]? else none)) := by
  intro g asked reached
  have hreached : reached = ⟨answers.drop asked,
      (before.filter DiagramRequest.asks).map (DiagramRequest.prompt options)⟩ :=
    script_generateAll options before answers []
  have hhead : (answers.drop asked).head? = answers[asked]? := List.head?_drop
  have hresult : (g.generateAll (before ++ r :: after) ⟨answers, []⟩).1[before.length]? =
      some (g.generate r reached).1 := getElem?_generateAll g before r after ⟨answers, []⟩
  refine ⟨hreached, ?_⟩
  rw [hresult, hreached, generate_scripted, hhead]
  cases h : r.asks with
  | true =>
    have hblank : blank r.description.toList = false := by simpa [DiagramRequest.asks] using h
    refine ⟨?_, ?_, rfl⟩
    · rw [calls_of_some _ hblank (m := Script.chatModel) rfl, ask_script, hhead]
      rfl
    · exact List.tail_drop
  | false =>
    have hblank : blank r.description.toList = true := by simpa [DiagramRequest.asks] using h
    exact ⟨calls_of_blank _ hblank, rfl, rfl⟩

end Generator

end DiagramStudio
