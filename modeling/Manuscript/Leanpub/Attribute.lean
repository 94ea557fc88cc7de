import Manuscript.Document.Node
import Manuscript.RenderError

/-!
# What rules read off nodes

A rule is made for nodes of some kind, but it may be called on any node. It asks the node by name
for what it needs, and fails if the node has nothing of that name. What is called the content of a
node is a text for some kinds and a list of nodes for others.
-/

namespace Manuscript.Node

/-- Fails because the node has nothing of a name. -/
def lacks {α : Type} (n : Node) (name : String) : Except RenderError α :=
  .error (.noAttribute n.kind.name name)

def language (n : Node) : Except RenderError (Option String) :=
  match n.body with
  | .codeBlock language _ => .ok language
  | _ => n.lacks "language"

def identifier (n : Node) : Except RenderError (Option String) :=
  match n.body with
  | .heading _ _ identifier => .ok identifier
  | .footnoteDefinition label _ => .ok (some label)
  | .footnoteReference label _ => .ok label
  | _ => n.lacks "identifier"

def target (n : Node) : Except RenderError Target :=
  match n.body with
  | .link target _ _ => .ok target
  | _ => n.lacks "link_type"

/-- What is called the content of a node. -/
inductive Content where
  | text (s : String)
  | nodes
deriving DecidableEq, Repr

def content (n : Node) : Except RenderError Content :=
  match n.body with
  | .codeBlock _ s | .literalBlock _ s | .rawBlock _ s | .mathBlock s | .text s | .code s
  | .rawInline _ s | .mathInline s => .ok (.text s)
  | .heading .. | .paragraph .. | .tableCell .. | .footnoteDefinition .. | .styled .. | .link .. =>
    .ok .nodes
  | _ => n.lacks "content"

/-- The content of a node, of which something is asked that only a text has. -/
def contentWith (n : Node) (method : String) : Except RenderError String := do
  match ← n.content with
  | .text s => return s
  | .nodes => throw (.noAttribute "list" method)

/-- The content of a node as its text. A list of nodes is none and cannot be joined with the texts
of siblings. It fails here already, also where nothing would be joined. -/
def plainContent (n : Node) : Except RenderError String := do
  match ← n.content with
  | .text s => return s
  | .nodes => throw .noText

end Manuscript.Node
