import TaskTree.Run
import TaskTree.Text.Hidden
import TaskTree.Json.Print

namespace TaskTree

set_option autoImplicit false

def optionText {α : Type} (part : α → String) : Option α → String
  | some a => "Some(" ++ part a ++ ")"
  | none => "None"

def listText (items : List String) : String :=
  "[" ++ ", ".intercalate items ++ "]"

def setText (items : List String) : String :=
  "\x7b" ++ ", ".intercalate items ++ "\x7d"

def recordText (name : String) (fields : List (String × String)) (more : Bool) : String :=
  let shown := fields.map fun (k, v) => k ++ ": " ++ v
  let shown := if more then shown ++ [".."] else shown
  name ++ " \x7b " ++ ", ".intercalate shown ++ " \x7d"

namespace Json

mutual

def debugText : Json → String
  | .null => "Null"
  | .bool b => "Bool(" ++ toString b ++ ")"
  | .num n => "Number(" ++ n.text ++ ")"
  | .str s => "String(" ++ Text.debugQuote s ++ ")"
  | .arr items => "Array " ++ listText (debugItems items)
  | .obj fields => "Object " ++ setText (debugFields fields)

def debugItems : List Json → List String
  | [] => []
  | v :: rest => debugText v :: debugItems rest

def debugFields : List (String × Json) → List String
  | [] => []
  | (k, v) :: rest => (Text.debugQuote k ++ ": " ++ debugText v) :: debugFields rest

end

end Json

namespace World

def debugNode (w : World) (n : NodeRef) : String :=
  recordText "Node" [("id", Text.debugQuote (w.node n).id), ("type", (w.kind n).debugName),
    ("name", optionText Text.debugQuote (w.name n)), ("state", (w.state n).debugName)] true

def debugContext (w : World) (c : ContextRef) : String :=
  let entries := (w.context c).entries.map fun (k, e) =>
    Text.debugQuote k ++ ": " ++ match e with
      | .value v => "Value(" ++ v.debugText ++ ")"
      | .provider _ => "Provider(..)"
  recordText "Context" [("entries", setText entries)] true

end World

def LoopSpec.debugText (s : LoopSpec) : String :=
  recordText "LoopSource" [("var", Text.debugQuote s.var), ("of", s.of.debugText)] false

def Plan.debugText (p : Plan) : String :=
  recordText "Plan" [("type", p.type.debugName), ("name", optionText Text.debugQuote p.name),
    ("service", optionText Text.debugQuote p.service),
    ("invoke", optionText Text.debugQuote p.invoke), ("fn", toString p.run.isSome),
    ("args", optionText (fun args => listText (Json.debugItems args)) p.args),
    ("result", optionText Text.debugQuote p.result),
    ("queue", optionText (fun (q : List Blueprint) => toString q.length) p.queue),
    ("for", optionText LoopSpec.debugText p.forEach)] true

def Blueprint.debugText (w : World) : Blueprint → String
  | .plan p => "Plan(" ++ Plan.debugText p ++ ")"
  | .node n => "Node(" ++ w.debugNode n ++ ")"

def Service.debugText (s : Service) : String :=
  setText (s.keys.map Text.debugQuote)

end TaskTree
