import BytecodeViewer.Plugin.Registry
import BytecodeViewer.Session.Selection

/-!
# The pipeline from selection to document

Language, model, selection and sections are set one by one, and the document
shows what they say together.  When rendering fails, the document is empty.
-/

namespace BytecodeViewer

abbrev Highlighter := String → List HighlightRule → Except Failure (List Span)

structure Pipeline where
  registry : Registry := {}
  sections : Sections := .standard
  highlighter : Highlighter := fun text rules => .ok (highlight text rules)
  language : Option String := none
  renderer : Option RendererId := none
  rules : List HighlightRule := []
  model : Option ModelId := none
  selection : Option Selection := none
  document : Document := .empty

namespace Pipeline

def channel : String := "dv_core.pipeline"

def renderText (id : RendererId) (sections : Sections) : Selection → Act Host String
  | .wholeClass c => Host.useRenderer id fun r m => r.renderClass m c sections
  | .method c k => Host.useRenderer id fun r m => r.renderMethod m c k 0 true
  | .unsupported text => throw (.unsupportedTarget text)

def noteIdleRules : List HighlightRule → Act Host Unit
  | [] => return
  | r :: rs => do
    if r.colorsNothing then
      Host.record "dv_core.highlight" .debug
        ("Highlight rule " ++ Text.quoted r.pattern.source ++ " has no capture group")
    noteIdleRules rs

def renderSelection (p : Pipeline) (id : RendererId) (s : Selection) : Act Host Document := do
  let text ← renderText id p.sections s
  let spans ← Act.ofExcept (p.highlighter text p.rules)
  noteIdleRules p.rules
  return ⟨text, spans⟩

def render : HostedAct Pipeline Document := do
  let p ← Act.own
  match p.selection, p.renderer with
  | some s, some id =>
    let described := Selection.describe (some s)
    Host.inContext [("language", p.language), ("selection", some described)] do
      match ← Act.attempt (Act.onHost (p.renderSelection id s)) with
      | .ok document =>
        Act.onHost <| Host.record channel .debug
          ("Rendered " ++ toString document.text.length ++ " chars with " ++
            toString document.spans.length ++ " spans")
        Act.setOwn fun p => { p with document }
        return document
      | .error f =>
        Act.setOwn fun p => { p with document := .empty }
        Act.onHost <| Host.record channel .warning
          ("Render failed for " ++ described ++ " with " ++ p.language.getD "None") true
        throw f
  | _, _ =>
    Act.setOwn fun p => { p with document := .empty }
    return .empty

def onRegistry {α : Type} (a : HostedAct Registry α) : HostedAct Pipeline α :=
  a.onPart (·.registry) fun registry p => { p with registry }

/-- Switches the language.  A name that cannot be resolved changes nothing. -/
def setLanguage (name : String) : HostedAct Pipeline Document := do
  let id ← onRegistry (Registry.resolve name)
  let p ← Act.own
  Act.onHost (Host.bindRenderer id p.model)
  Act.setOwn fun p => { p with language := some name, renderer := some id }
  let rules ← Act.onHost (Host.rulesOf id)
  Act.setOwn fun p => { p with rules }
  Act.onHost (Host.record channel .debug ("Output language set to " ++ name))
  render

def setSelection (selection : Option Selection) : HostedAct Pipeline Document := do
  Act.setOwn fun p => { p with selection }
  render

/-- Takes another model; nothing is selected in it. -/
def setModel (model : Option ModelId) : HostedAct Pipeline Unit := do
  let p ← Act.own
  Act.setOwn fun p => { p with model }
  if let some id := p.renderer then
    Act.onHost (Host.bindRenderer id model)
  Act.setOwn fun p => { p with selection := none, document := .empty }

def setSections (sections : Sections) : HostedAct Pipeline Document := do
  Act.setOwn fun p => { p with sections }
  render

end Pipeline

end BytecodeViewer
