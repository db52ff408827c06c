import RouteDoc.Annotation.Parameter
import RouteDoc.Annotation.Response
import RouteDoc.Context

/-!
# Definitions with their types resolved

* `Context.readParameter`, `Context.readResponse`: the parameter or response that the fields of a
  tag define, its type resolved in the context.
-/

namespace RouteDoc

/-- The context after a step, what the step reports, and its outcome. -/
structure Resolved (α : Type) where
  context : Context
  notices : List Notice := []
  outcome : Except TagFault α

namespace Context

def mapNotices (before after : Context) : List Notice := (newMaps before after).map .mapCreated

def readParameter (c : Context) (isBody : Bool) (keyword : String) (fields : List String) :
    Resolved Parameter :=
  match ParameterDraft.ofFields isBody fields with
  | .error fault => { context := c, outcome := .error (.fields fault) }
  | .ok draft =>
    match c.resolve draft.type.expression with
    | (c', .error fault) => ⟨c', mapNotices c c', .error (.type fault)⟩
    | (c', .ok type) =>
      let base := c'.registry.baseOf type
      match draft.complete type base with
      | .error fault => ⟨c', mapNotices c c', .error (.fields fault)⟩
      | .ok p =>
        let dropped := (draft.dropped base).map fun v => Notice.enumValueDropped keyword v base
        ⟨c', mapNotices c c' ++ dropped, .ok p⟩

def readResponse (c : Context) (fields : List String) : Resolved Response :=
  match ResponseDraft.ofFields fields with
  | .error fault => { context := c, outcome := .error (.fields fault) }
  | .ok draft =>
    match c.resolve draft.expression with
    | (c', .error fault) => ⟨c', mapNotices c c', .error (.type fault)⟩
    | (c', .ok type) => ⟨c', mapNotices c c', .ok (draft.complete type)⟩

end Context

end RouteDoc
