import Manuscript.Markdown.Convert
import Manuscript.Proofs.Markdown.Fault
import Manuscript.Proofs.Text.Carried

/-!
# What generic Markdown carries

A node sets marks around the fragments of its children, breaks their lines anew and escapes bars in
them, and nothing else:

* `Unbroken`: a text that neither is done to;
* `carries_listing`, `carries_listItem`, `carries_grid`: the nodes that do more than to put their
  fragments together;
* `convert_carries`: what the fragments carry is carried by the node, behind the head of a
  definition if it is one.
-/

namespace Manuscript

open Text

/-- The text has no newline, at which it would be broken, and no bar, which would be escaped. -/
def Unbroken (text : List Char) : Prop := '\n' ∉ text ∧ '|' ∉ text

/-- What a footnote definition begins with. -/
def definitionHead (label : String) : String := "[^" ++ label ++ "]:"

namespace Node

/-- The head of a definition, which the node itself brings in if it is one. -/
def heads (n : Node) : List (List Char) :=
  match n.body with
  | .footnoteDefinition label _ => [(definitionHead label).toList]
  | _ => []

end Node

namespace Markdown

variable {marks : Node → List (List Char)} {items : List Node} {fragments : List String}

theorem carries_listing (o : MarkdownOptions) (depth : Nat) (marking : Marking) (tight : Bool)
    (each : Carrying marks items fragments) (whole : ∀ item ∈ items, ∀ t ∈ marks item, Unbroken t) :
    Carries (items.flatMap marks) (listing o depth marking tight fragments).toList := by
  refine carries_intercalate_fragments _ (carrying_mapIdx each fun item hi position fragment h => ?_)
  have indented := h.indentContinuation (marker o depth marking position).length fun t ht =>
    (whole item hi t ht).1
  have carried := indented.behind (marker o depth marking position).toList
  rwa [markedItem, String.toList_append]

theorem carries_listItem (task : Option Task) (each : Carrying marks items fragments) :
    Carries (items.flatMap marks) (listItem task fragments).toList := by
  have body := carries_joinNonempty "\n" each
  unfold listItem
  cases task with
  | none => exact body
  | some task =>
    have carried := body.behind (checkbox task ++ " ").toList
    rwa [← String.toList_append] at carried

theorem carries_row (each : Carrying marks items fragments) :
    Carries (items.flatMap marks) (row fragments).toList :=
  (carries_intercalate_fragments " | " each).between "| " " |"

theorem exists_separators_of_grid {rows : List Node}
    {alignments : Option (List (Option Alignment))} {first text : String} {rest : List String}
    (h : grid rows alignments (first :: rest) = .ok text) :
    ∃ separators, text = "\n".intercalate (first :: row separators :: rest) := by
  simp only [grid] at h
  split at h
  next header _ =>
    cases count : cellCount header with
    | error e =>
      rw [count] at h
      cases h
    | ok count' =>
      rw [count] at h
      cases alignments with
      | none => cases h
      | some alignments =>
        cases separators : (columns (max count' 1) alignments).mapM dashes with
        | error e =>
          simp only [bind, Except.bind, separators] at h
          cases h
        | ok separators' =>
          simp only [bind, Except.bind, separators] at h
          cases h
          exact ⟨separators', rfl⟩
  next => cases h

/-- The line of dashes stands between the first row and the others. -/
theorem carries_grid {rows : List Node} {alignments : Option (List (Option Alignment))}
    (each : Carrying marks items fragments) {text : String}
    (h : grid rows alignments fragments = .ok text) : Carries (items.flatMap marks) text.toList := by
  cases each with
  | nil => exact .nil _
  | @cons item fragment items fragments first rest =>
    obtain ⟨separators, rfl⟩ := exists_separators_of_grid h
    rw [List.flatMap_cons, String.toList_intercalate]
    refine carries_intercalate_cons "\n".toList first ?_
    have others := carries_intercalate "\n".toList (Carrying.forall₂ rest)
    rw [← List.flatMap_def] at others
    exact carries_intercalate_cons "\n".toList (.nil _) others

theorem carries_extended (mode : InlineMode) (tag mark : String) {texts : List (List Char)}
    {content : String} (h : Carries texts content.toList) :
    Carries texts (extended mode tag mark content).toList := by
  cases mode with
  | ignore => exact h
  | markdown => exact h.between mark mark
  | html =>
    have carried := h.between ("<" ++ tag ++ ">") ("</" ++ tag ++ ">")
    simpa only [extended, tagged, String.append_assoc] using carried

theorem carries_styled (o : MarkdownOptions) (style : Style) {texts : List (List Char)}
    {content : String} (h : Carries texts content.toList) :
    Carries texts (styled o style content).toList := by
  cases style with
  | emphasis => exact h.between o.emphasis.text o.emphasis.text
  | strong => exact h.between "**" "**"
  | strikethrough => exact h.between "~~" "~~"
  | underline => exact carries_extended o.underline "u" "__" h
  | superscript => exact carries_extended o.superscript "sup" "^" h
  | subscript => exact carries_extended o.subscript "sub" "~" h

/-- A link without a description carries nothing that could be lost. -/
theorem carries_link (target : Target) (title : Option String) {texts : List (List Char)}
    {description : String} (h : Carries texts description.toList) :
    Carries texts (link target description title).toList := by
  unfold link
  split
  next empty =>
    rw [String.isEmpty_iff.1 empty] at h
    exact h.of_empty _
  next =>
    have carried := h.between "[" ("]" ++ addressed target.url title)
    simpa only [String.append_assoc] using carried

theorem convert_carries {o : MarkdownOptions} {context : Context} {n : Node} {text : String}
    (h : (convert o context n fragments).result = .ok text)
    (each : Carrying marks n.children fragments)
    (whole : ∀ c ∈ n.children, ∀ t ∈ marks c, Unbroken t) :
    Carries (n.heads ++ n.children.flatMap marks) text.toList := by
  obtain ⟨key, body⟩ := n
  have joined := carries_join each
  have blocks := carries_joinNonempty "\n\n" each
  have unbroken : ∀ t ∈ (Node.mk key body).children.flatMap marks, Unbroken t := by
    intro t ht
    obtain ⟨c, hc, ht⟩ := List.mem_flatMap.1 ht
    exact whole c hc t ht
  cases body with
  | document children => cases h; exact blocks
  | heading level content identifier =>
    cases h
    have split : ∀ s, (heading o level s).toList = (heading o level "").toList ++ s.toList := by
      intro s
      simp [heading]
    rw [split]
    exact joined.behind (heading o level "").toList
  | paragraph content caption => cases h; exact joined
  | blockQuote children =>
    cases h
    exact blocks.prefixLines "> " fun t ht => (unbroken t ht).1
  | list marking tight children => cases h; exact carries_listing o _ marking tight each whole
  | listItem task children => cases h; exact carries_listItem task each
  | table header rows alignments => exact carries_grid each h
  | tableRow cells => cases h; exact carries_row each
  | tableCell content =>
    cases h
    refine joined.escapeOnly ['|'] fun t ht c hc bar => ?_
    exact (unbroken t ht).2 (List.mem_singleton.1 bar ▸ hc)
  | footnoteDefinition label content =>
    cases h
    have indented := blocks.indentContinuation 4 fun t ht => (unbroken t ht).1
    have split : ∀ body, (footnoteDefinition label body).toList =
        (definitionHead label).toList ++ ([' '] ++ (indentContinuation 4 body).toList) := by
      intro body
      simp [footnoteDefinition, definitionHead]
    rw [split]
    exact (carries_self (definitionHead label).toList).append (indented.behind [' '])
  | styled style content => cases h; exact carries_styled o style joined
  | link target content title => cases h; exact carries_link target title joined
  | _ => exact .nil _

end Markdown

end Manuscript
