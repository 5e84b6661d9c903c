import DiagramStudio.Diagram.Fallback
import DiagramStudio.Diagram.Repair
import DiagramStudio.Model.Chat
import DiagramStudio.Service.Platform
import DiagramStudio.Service.Result

/-!
# Generating diagrams

A request describes a system; a model is asked once for a diagram of it, and its reply is repaired.
When there is no model, no description, an error or nothing usable in the reply, the fallback
diagram takes its place, so every result carries a diagram.
-/

namespace DiagramStudio

open Text

/-! ## Options -/

/-- The options of a generator. -/
structure Options where
  /-- The limit on a reply, in tokens. -/
  maxTokens : UInt32
  /-- With the fallback on error, a failure of the model counts as a success with the fallback
  diagram. -/
  fallbackOnError : Bool
  deriving Repr, DecidableEq

namespace Options

/-- The options that hold unless set. -/
def standard : Options := ⟨4096, true⟩

/-- Reads a truth value. Case and blanks around it do not matter. -/
def truth? (raw : String) : Option Bool :=
  let name := trim (lowercase raw.toList)
  if name = "true".toList then some true
  else if name = "false".toList then some false
  else none

/-- The options that the variables set; a malformed value counts as absent. -/
def resolve (lookup : Lookup) : Options where
  maxTokens :=
    UInt32.ofNat (lookup.numberOr "DIAGRAM_MAX_TOKENS" (Nat.pow 2 32) standard.maxTokens.toNat)
  fallbackOnError :=
    ((lookup "DIAGRAM_FALLBACK_ON_ERROR").bind truth?).getD standard.fallbackOnError

end Options

/-! ## Errors -/

/-- Why a request got no reply. -/
inductive DiagramError
  | notConfigured
  | emptyDescription
  | model (e : ModelError)
  deriving Repr, DecidableEq

namespace DiagramError

def message : DiagramError → String
  | notConfigured => "LLM not configured"
  | emptyDescription => "description is empty"
  | model e => "LLM error: " ++ e.message

/-- The stable code. -/
def code : DiagramError → String
  | notConfigured => "E_LLM_NOT_CONFIGURED"
  | emptyDescription => "E_EMPTY_DESCRIPTION"
  | model _ => "E_LLM_ERROR"

/-- True if the same request may succeed later. -/
def retryable : DiagramError → Bool
  | model e => e.retryable
  | _ => false

/-- True of the errors that the fallback on error forgives. -/
def forgivable : DiagramError → Bool
  | emptyDescription => false
  | _ => true

end DiagramError

/-! ## Requests -/

structure DiagramRequest where
  description : String
  platform : Option String
  deriving Repr, DecidableEq

namespace DiagramRequest

/-- The longest title, in characters. -/
def titleLimit : Nat := 60

def defaultTitle : Text := "Architecture Diagram".toList

/-- The start of the first line of a description that is not blank. -/
def titleOf (description : Text) : Text :=
  match ((lines description).map trim).find? fun line => !line.isEmpty with
  | some line => line.take titleLimit
  | none => defaultTitle

/-- The tag of the platform without blanks around it, if anything is left of it. -/
def tag? (r : DiagramRequest) : Option String :=
  match r.platform with
  | some tag =>
    let trimmed := trim tag.toList
    if trimmed.isEmpty then none else some (String.ofList trimmed)
  | none => none

/-- The description without blanks around it. -/
def subject (r : DiagramRequest) : Text := trim r.description.toList

/-- The prompt that asks for the diagram. -/
def prompt (options : Options) (r : DiagramRequest) : Prompt where
  maxTokens := options.maxTokens
  system := (((r.tag?).map Platform.ofTag).getD .general).instructions
  messages :=
    [Message.user ("<user_input>" ++ String.ofList r.subject ++ "</user_input>")]

/-- The diagram in a reply, empty if nothing usable is in it. -/
def diagramIn (reply : String) : Text := Repair.repair (Fence.extract reply.toList)

/-- The result of a request that got a reply. -/
def succeed (r : DiagramRequest) (c : Completion) : DiagramResult where
  status := .success
  diagramCode :=
    let code := diagramIn c.text
    String.ofList (if code.isEmpty then Fallback.diagram r.description.toList else code)
  diagramType := "mermaid"
  description := r.description
  title := String.ofList (titleOf r.description.toList)
  model := if c.model = "" then none else some c.model
  platform := r.tag?
  error := none

/-- The result of a request that got no reply. -/
def fail (options : Options) (r : DiagramRequest) (e : DiagramError) : DiagramResult :=
  let forgiven := options.fallbackOnError && e.forgivable
  { status := if forgiven then .success else .error
    diagramCode := String.ofList (Fallback.diagram r.description.toList)
    diagramType := "mermaid"
    description := r.description
    title := String.ofList (titleOf r.description.toList)
    model := none
    platform := r.tag?
    error := if forgiven then none else some e.message }

/-- The result of a request, given what came of asking the model. -/
def conclude (options : Options) (r : DiagramRequest) :
    Except DiagramError Completion → DiagramResult
  | .ok c => r.succeed c
  | .error e => r.fail options e

end DiagramRequest

/-! ## Generators -/

/-- A generator: a model, if one is configured, and the options. -/
structure Generator (σ : Type) where
  model : Option (ChatModel σ)
  options : Options

namespace Generator

variable {σ : Type}

/-- Asks the model for the diagram. A blank description or a missing model ends the request before
the model is asked. -/
def consult (g : Generator σ) (r : DiagramRequest) (state : σ) :
    Except DiagramError Completion × σ :=
  if r.subject.isEmpty then (.error .emptyDescription, state)
  else
    match g.model with
    | none => (.error .notConfigured, state)
    | some model =>
      let (answer, state) := model.ask (r.prompt g.options) state
      (answer.mapError .model, state)

def generate (g : Generator σ) (r : DiagramRequest) (state : σ) : DiagramResult × σ :=
  let (outcome, state) := g.consult r state
  (r.conclude g.options outcome, state)

def generateAll (g : Generator σ) : List DiagramRequest → σ → List DiagramResult × σ
  | [], state => ([], state)
  | r :: rest, state =>
    let (result, state) := g.generate r state
    let (results, state) := g.generateAll rest state
    (result :: results, state)

end Generator

end DiagramStudio
