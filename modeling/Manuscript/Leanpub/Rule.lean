import Manuscript.Context

/-!
# Rules

A rule says how nodes are written in a book. A table holds a rule for some kinds and may hold one
for nodes of any kind; a node without a rule is written as generic Markdown. A table may hold any
rule for any kind, also one that is made for another kind, and rules that its owner brings along.
-/

namespace Manuscript.Leanpub

/-- How a node is written. -/
inductive Rule where
  /-- Source code behind its language. -/
  | codeBlock
  /-- Literal text as an aside. -/
  | literalBlock
  /-- A heading under its anchor. -/
  | heading
  /-- Nothing: definitions go to the footnote section. -/
  | omitDefinition
  /-- Nothing: a book cannot hold the node. -/
  | suppress
  /-- A link by its target. -/
  | link
  /-- A footnote reference by its label. -/
  | footnoteReference
  /-- Mathematics in a line. -/
  | mathInline
  /-- Text without escapes. -/
  | plainText
  /-- Generic Markdown. -/
  | generic
  /-- A rule of another's making: a function of what is known about the document, of the node and
  of the fragments of its children. -/
  | own (name : String) (write : Context → Node → List String → String)

/-- The rules by kind, and the rule for nodes of any kind. -/
structure RuleTable where
  own : Kind → Option Rule
  any : Option Rule

/-- What an entry of a table is about. -/
inductive Scope where
  | kind (k : Kind)
  | any
deriving DecidableEq, Repr

namespace RuleTable

/-- The rules of a Leanpub book. -/
def leanpub : RuleTable where
  any := none
  own
    | .codeBlock => some .codeBlock
    | .literalBlock => some .literalBlock
    | .heading => some .heading
    | .footnoteDefinition => some .omitDefinition
    | .table | .rawBlock | .rawInline => some .suppress
    | .link => some .link
    | .footnoteReference => some .footnoteReference
    | .mathInline => some .mathInline
    | .text => some .plainText
    | _ => none

/-- The kinds that a Leanpub book has a rule for. -/
def ruled : List Kind := Kind.all.filter fun k => (leanpub.own k).isSome

/-- Puts an entry in place of the one that was there; no rule takes a rule away. -/
def set (table : RuleTable) (scope : Scope) (rule : Option Rule) : RuleTable :=
  match scope with
  | .kind k => { table with own := fun k' => if k' = k then rule else table.own k' }
  | .any => { table with any := rule }

/-- Puts several entries into a table. -/
def setAll (table : RuleTable) (entries : List (Scope × Option Rule)) : RuleTable :=
  entries.foldl (fun table entry => table.set entry.1 entry.2) table

/-- The rule for nodes of a kind: the kind's own, or else the one for any. -/
def find? (table : RuleTable) (k : Kind) : Option Rule := (table.own k).or table.any

end RuleTable

end Manuscript.Leanpub
