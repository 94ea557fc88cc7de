import Manuscript.Document.Kind
import Manuscript.Text.Quoted

/-!
# Nodes

A document is a tree of nodes. What a node is and holds is its `Body`; its `key` tells it from
every other node, so that nodes with equal bodies remain distinct and one node may stand at several
places. A body is generic in what stands below it, and `Body.children` and `Body.attached` list
that in document order: the children are rendered before the node itself, what is attached (the
caption of a paragraph, the definition written into a footnote reference) is rendered elsewhere.
-/

namespace Manuscript

/-- The level of a heading; one is the most important. -/
structure Level where
  val : Nat
  one_le : 1 ≤ val
  le_six : val ≤ 6
deriving DecidableEq, Repr

/-- A level is a whole number from one to six. -/
def Level.ofInt? (n : Int) : Option Level :=
  if h : 1 ≤ n.toNat ∧ n.toNat ≤ 6 then some ⟨n.toNat, h.1, h.2⟩ else none

/-- What a literal block was in its source. -/
inductive LiteralKind where
  | example | fixedWidth
deriving DecidableEq, Repr

def LiteralKind.name : LiteralKind → String
  | .example => "example"
  | .fixedWidth => "fixed-width"

def LiteralKind.ofName? (s : String) : Option LiteralKind :=
  if s = "example" then some .example else if s = "fixed-width" then some .fixedWidth else none

/-- How the items of a list are marked. -/
inductive Marking where
  | bullets
  | numbers (start : Int)
deriving DecidableEq, Repr

/-- The checkbox of a list item. -/
inductive Task where
  | checked | unchecked
deriving DecidableEq, Repr

/-- Any word but the one for a checked box leaves the box empty. -/
def Task.ofName (s : String) : Task := if s = "checked" then .checked else .unchecked

/-- How a table column is aligned; a word that names no alignment is kept as it was given. -/
inductive Alignment where
  | left | center | right
  | unknown (word : String)
deriving DecidableEq, Repr

def Alignment.ofName (s : String) : Alignment :=
  if s = "left" then .left else if s = "center" then .center
  else if s = "right" then .right else .unknown s

/-- The inline styles that enclose other inline nodes. -/
inductive Style where
  | emphasis | strong | strikethrough | underline | superscript | subscript
deriving DecidableEq, Repr

/-- Where a link leads: a scheme and a path without it. -/
structure Target where
  scheme : String
  path : String
deriving DecidableEq, Repr

namespace Target

/-- Schemes of links inside the book, whose path is the identifier of a heading. -/
def isCrossReference (target : Target) : Bool :=
  target.scheme == "id" || target.scheme == "custom-id"

/-- The scheme, a colon and the path. -/
def uri (target : Target) : String := target.scheme ++ ":" ++ target.path

/-- The target as a single address. -/
def url (target : Target) : String :=
  if target.isCrossReference then "#" ++ target.path
  else if target.scheme = "fuzzy" || target.scheme = "file" then target.path
  else target.uri

end Target

/-- What a node is, over whatever stands below it. -/
inductive Body (α : Type) where
  | document (children : List α)
  | heading (level : Level) (content : List α) (identifier : Option String)
  | paragraph (content caption : List α)
  | codeBlock (language : Option String) (code : String)
  | literalBlock (kind : LiteralKind) (literal : String)
  | blockQuote (children : List α)
  | list (marking : Marking) (tight : Bool) (items : List α)
  | listItem (task : Option Task) (children : List α)
  | table (header : Option α) (rows : List α) (alignments : Option (List (Option Alignment)))
  | tableRow (cells : List α)
  | tableCell (content : List α)
  | thematicBreak
  | rawBlock (format markup : String)
  | footnoteDefinition (label : String) (content : List α)
  | mathBlock (formula : String)
  | text (content : String)
  | styled (style : Style) (content : List α)
  | code (content : String)
  | link (target : Target) (content : List α) (title : Option String)
  | image (url alt : String) (title : Option String)
  | lineBreak (soft : Bool)
  | rawInline (format markup : String)
  | footnoteReference (label : Option String) (definition : Option (List α))
  | mathInline (formula : String)

namespace Body

variable {α : Type}

/-- What stands below a node and is rendered before it, in document order. -/
def children : Body α → List α
  | document cs | blockQuote cs | listItem _ cs | list _ _ cs | tableRow cs | tableCell cs
  | heading _ cs _ | paragraph cs _ | footnoteDefinition _ cs | styled _ cs | link _ cs _ => cs
  | table header rows _ => header.toList ++ rows
  | _ => []

/-- What belongs to a node without being rendered at its place. -/
def attached : Body α → List α
  | paragraph _ caption => caption
  | footnoteReference _ definition => definition.getD []
  | _ => []

/-- Everything below a node, in document order. -/
def parts (b : Body α) : List α := b.children ++ b.attached

def kind : Body α → Kind
  | document .. => .document
  | heading .. => .heading
  | paragraph .. => .paragraph
  | codeBlock .. => .codeBlock
  | literalBlock .. => .literalBlock
  | blockQuote .. => .blockQuote
  | list .. => .list
  | listItem .. => .listItem
  | table .. => .table
  | tableRow .. => .tableRow
  | tableCell .. => .tableCell
  | thematicBreak => .thematicBreak
  | rawBlock .. => .rawBlock
  | footnoteDefinition .. => .footnoteDefinition
  | mathBlock .. => .mathBlock
  | text .. => .text
  | styled .emphasis _ => .emphasis
  | styled .strong _ => .strong
  | styled .strikethrough _ => .strikethrough
  | styled .underline _ => .underline
  | styled .superscript _ => .superscript
  | styled .subscript _ => .subscript
  | code .. => .code
  | link .. => .link
  | image .. => .image
  | lineBreak .. => .lineBreak
  | rawInline .. => .rawInline
  | footnoteReference .. => .footnoteReference
  | mathInline .. => .mathInline

theorem sizeOf_lt_of_mem_parts [SizeOf α] {b : Body α} {a : α} (h : a ∈ b.parts) :
    sizeOf a < sizeOf b := by
  cases b <;> simp only [parts, children, attached, List.mem_append, List.not_mem_nil,
    or_false, false_or] at h <;> simp only [document.sizeOf_spec, heading.sizeOf_spec,
    paragraph.sizeOf_spec, blockQuote.sizeOf_spec, list.sizeOf_spec, listItem.sizeOf_spec,
    table.sizeOf_spec, tableRow.sizeOf_spec, tableCell.sizeOf_spec,
    footnoteDefinition.sizeOf_spec, styled.sizeOf_spec, link.sizeOf_spec,
    footnoteReference.sizeOf_spec]
  case table header rows alignments =>
    rcases h with h | h
    · cases header <;> simp_all
      omega
    · have := List.sizeOf_lt_of_mem h
      omega
  case paragraph content caption =>
    rcases h with h | h <;> have := List.sizeOf_lt_of_mem h <;> omega
  case footnoteReference label definition =>
    cases definition with
    | none => simp at h
    | some nodes =>
      have : a ∈ nodes := by simpa using h
      have := List.sizeOf_lt_of_mem this
      simp only [Option.some.sizeOf_spec]
      omega
  all_goals have := List.sizeOf_lt_of_mem h; omega

end Body

/-- A node of a document. -/
inductive Node where
  | mk (key : Nat) (body : Body Node)

namespace Node

/-- Tells the node from every other one. -/
def key : Node → Nat
  | mk key _ => key

def body : Node → Body Node
  | mk _ body => body

def kind (n : Node) : Kind := n.body.kind

def isInline (n : Node) : Bool := n.kind.isInline

/-- What is rendered before the node itself. -/
def children (n : Node) : List Node := n.body.children

/-- What belongs to the node and is rendered elsewhere. -/
def attached (n : Node) : List Node := n.body.attached

/-- Everything directly below the node. -/
def parts (n : Node) : List Node := n.body.parts

/-- The contents of a text node. -/
def text? (n : Node) : Option String :=
  match n.body with
  | .text s => some s
  | _ => none

theorem parts_eq (n : Node) : n.parts = n.children ++ n.attached := rfl

theorem mem_parts_of_mem_children {n c : Node} (h : c ∈ n.children) : c ∈ n.parts :=
  List.mem_append_left _ h

theorem sizeOf_lt_of_mem_parts {n c : Node} (h : c ∈ n.parts) : sizeOf c < sizeOf n := by
  obtain ⟨key, body⟩ := n
  have := Body.sizeOf_lt_of_mem_parts (b := body) h
  simp only [mk.sizeOf_spec]
  omega

theorem sizeOf_lt_of_mem_children {n c : Node} (h : c ∈ n.children) : sizeOf c < sizeOf n :=
  sizeOf_lt_of_mem_parts (mem_parts_of_mem_children h)

/-- What holds of a node when it holds of everything directly below it holds of every node. -/
theorem induction {motive : Node → Prop}
    (step : ∀ n, (∀ c ∈ n.parts, motive c) → motive n) (n : Node) : motive n :=
  step n fun c _ => induction step c
termination_by n
decreasing_by exact sizeOf_lt_of_mem_parts ‹_›

end Node

/-- Why a node cannot be built. -/
inductive NodeError where
  | headingLevel (given : Int)
  | literalKind (given : Option String)
deriving DecidableEq, Repr

namespace NodeError

def message : NodeError → String
  | headingLevel given => "Heading level must be 1-6, got " ++ toString given
  | literalKind given =>
    "Literal block kind must be one of ('example', 'fixed-width'), got " ++
      (given.map Text.quote).getD "None"

end NodeError

namespace Body

variable {α : Type}

/-- A heading, if its level is one. -/
def heading? (level : Int) (content : List α) (identifier : Option String) :
    Except NodeError (Body α) :=
  match Level.ofInt? level with
  | some l => .ok (heading l content identifier)
  | none => .error (.headingLevel level)

/-- A literal block, if its kind is one. -/
def literalBlock? (kind : Option String) (literal : String) : Except NodeError (Body α) :=
  match kind.bind LiteralKind.ofName? with
  | some k => .ok (literalBlock k literal)
  | none => .error (.literalKind kind)

end Body

end Manuscript
