import Manuscript.Proofs.Leanpub.Calls
import Manuscript.Session

/-!
# Books without rules

A table of rules can take the rules of a book away. What has no rule is written as generic Markdown,
so that a book without any rule is nothing else:

* `find?_setAll_of_clearing`: a table from which every rule is taken away has none;
* `transcode_endsLike_generic`: by such a table every node becomes what generic Markdown makes of
  it;
* `unruled_writes_generic`: a renderer of books with such a table agrees with one of generic
  Markdown.
-/

namespace Manuscript.Leanpub

open Outcome

namespace RuleTable

variable {entries : List (Scope × Option Rule)}

/-- The entry takes the rule of a kind away. -/
def Clears (entry : Scope × Option Rule) : Prop := ∃ k, entry = (.kind k, none)

theorem any_setAll (clear : ∀ entry ∈ entries, Clears entry) (table : RuleTable) :
    (table.setAll entries).any = table.any := by
  induction entries generalizing table with
  | nil => rfl
  | cons entry entries ih =>
    obtain ⟨k, rfl⟩ := clear entry List.mem_cons_self
    exact ih (fun e he => clear e (List.mem_cons_of_mem _ he)) (table.set (.kind k) none)

/-- A kind whose rule is taken away has none, and the others keep theirs. -/
theorem own_setAll (clear : ∀ entry ∈ entries, Clears entry) (table : RuleTable) (k : Kind) :
    ((Scope.kind k, none) ∈ entries → (table.setAll entries).own k = none) ∧
      ((Scope.kind k, none) ∉ entries → (table.setAll entries).own k = table.own k) := by
  induction entries generalizing table with
  | nil => simp [setAll]
  | cons entry entries ih =>
    obtain ⟨cleared, rfl⟩ := clear entry List.mem_cons_self
    obtain ⟨gone, kept⟩ := ih (fun e he => clear e (List.mem_cons_of_mem _ he))
      (table.set (.kind cleared) none)
    have first : (table.set (.kind cleared) none).own k =
        if k = cleared then none else table.own k := rfl
    rw [first] at kept
    by_cases later : (Scope.kind k, (none : Option Rule)) ∈ entries
    · exact ⟨fun _ => gone later, fun new => absurd (List.mem_cons_of_mem _ later) new⟩
    · refine ⟨fun mem => ?_, fun new => ?_⟩
      · obtain ⟨⟩ := (List.mem_cons.1 mem).resolve_right later
        exact (kept later).trans (if_pos rfl)
      · have other : k ≠ cleared := by
          rintro rfl
          exact new List.mem_cons_self
        exact (kept later).trans (if_neg other)

/-- The kinds that have a rule in a book. -/
theorem mem_ruled_iff {k : Kind} : k ∈ ruled ↔ (leanpub.own k).isSome := by
  rw [ruled, List.mem_filter]
  exact and_iff_right k.mem_all

example : ruled.length = 11 := by decide

theorem find?_setAll_of_clearing
    (cleared : entries.Perm (ruled.map fun k => (Scope.kind k, none))) (k : Kind) :
    (leanpub.setAll entries).find? k = none := by
  have clear : ∀ entry ∈ entries, Clears entry := by
    intro entry he
    obtain ⟨k, -, rfl⟩ := List.mem_map.1 (cleared.mem_iff.1 he)
    exact ⟨k, rfl⟩
  obtain ⟨gone, kept⟩ := own_setAll clear leanpub k
  have bare : (leanpub.setAll entries).own k = none := by
    by_cases mem : (Scope.kind k, (none : Option Rule)) ∈ entries
    · exact gone mem
    · have unruled : k ∉ ruled := fun hk => mem (cleared.mem_iff.2 (List.mem_map.2 ⟨k, hk, rfl⟩))
      rw [mem_ruled_iff] at unruled
      exact (kept mem).trans (by simpa using unruled)
  rw [find?, any_setAll clear, bare]
  rfl

end RuleTable

namespace Export

variable {x : Export}

/-- A node without a rule becomes what generic Markdown makes of it. -/
theorem convert_endsLike_generic (unruled : ∀ k, x.rules.find? k = none)
    (renderCaption : List Node → Outcome RenderError String) (n : Node) (fragments : List String) :
    EndsLike id (Markdown.convert x.options.toMarkdownOptions x.context n fragments)
      (x.convert renderCaption n fragments) := by
  rw [endsLike_id, convert_result, unruled]
  rfl

theorem transcode_endsLike_generic (unruled : ∀ k, x.rules.find? k = none) (n : Node) :
    EndsLike id (Markdown.transcode x.options.toMarkdownOptions x.context n) (x.transcode n) :=
  fold_endsLike (fun n fragments => convert_endsLike_generic unruled _ n fragments) n

end Export

/-- A renderer of books and one of generic Markdown with the same options make the same of every
node of a document, or fail for the same cause, and generic output is the tidy form of what the
document becomes in the book. -/
def WritesGeneric (o : LeanpubOptions) (entries : List (Scope × Option Rule))
    (environment : Environment) (root : Node) : Prop :=
  ∃ book plain, Renderer.create .leanpub entries (.options (.leanpub o)) = .ok book ∧
    Renderer.create .markdown [] (.options (.leanpub o)) = .ok plain ∧
    ∃ x y : Session,
      (Session.start book environment root : Outcome RenderError Session).result = .ok x ∧
      (Session.start plain environment root : Outcome RenderError Session).result = .ok y ∧
      (∀ n, (x.transcode n).result = (y.transcode n).result) ∧
      (plain.render environment root).result =
        (x.transcode root).result.map (Markdown.tidy o.toMarkdownOptions)

theorem start_result (renderer : Renderer) (environment : Environment) (root : Node) :
    (Session.start renderer environment root : Outcome RenderError Session).result =
      .ok (match renderer with
        | .markdown options extensions => .markdown options extensions (Context.of root)
        | .leanpub options rules => .leanpub ⟨options, rules, environment, Context.of root⟩) := by
  rw [Session.start, Context.build_eq]
  rfl

/-- **A book without rules is generic Markdown.** -/
theorem unruled_writes_generic (o : LeanpubOptions) (entries : List (Scope × Option Rule))
    (cleared : entries.Perm (RuleTable.ruled.map fun k => (Scope.kind k, none)))
    (environment : Environment) (root : Node) : WritesGeneric o entries environment root := by
  have unruled := RuleTable.find?_setAll_of_clearing cleared
  let x : Export := ⟨o, RuleTable.leanpub.setAll entries, environment, Context.of root⟩
  have same : ∀ n, (x.transcode n).result =
      (Markdown.transcode o.toMarkdownOptions (Context.of root) n).result :=
    fun n => endsLike_id.1 (x.transcode_endsLike_generic unruled n)
  refine ⟨.leanpub o (RuleTable.leanpub.setAll entries),
    .markdown o.toMarkdownOptions o.imageExtensions, rfl, rfl, .leanpub x,
    .markdown o.toMarkdownOptions o.imageExtensions (Context.of root),
    start_result .., start_result .., same, ?_⟩
  calc (Markdown.render o.toMarkdownOptions root).result
      = (Markdown.transcode o.toMarkdownOptions (Context.of root) root).result.map
          (Markdown.tidy o.toMarkdownOptions) := Markdown.render_result ..
    _ = (x.transcode root).result.map (Markdown.tidy o.toMarkdownOptions) := by rw [same]

/-- A list in a list with a footnote, an image with a caption that holds the list once more, and a
table with a column aligned by a word that means nothing. -/
def agenda : Node :=
  let call : Node := ⟨3, .footnoteReference none (some [⟨4, .text "aside"⟩])⟩
  let inner : Node := ⟨2, .list .bullets true [⟨5, .listItem none [call]⟩]⟩
  ⟨0, .document
    [⟨1, .list (.numbers 1) false [⟨6, .listItem (some .checked) [inner]⟩]⟩,
      ⟨7, .paragraph [⟨8, .link ⟨"file", "plan.png"⟩ [] none⟩] [inner]⟩,
      ⟨9, .table none [⟨10, .tableRow [⟨11, .tableCell []⟩]⟩] (some [some (.unknown "inside")])⟩]⟩

theorem agenda_writes_generic :
    ((RuleTable.ruled.map fun k => (Scope.kind k, none)).reverse).Perm
        (RuleTable.ruled.map fun k => (Scope.kind k, (none : Option Rule))) ∧
      WritesGeneric .standard ((RuleTable.ruled.map fun k => (Scope.kind k, none)).reverse)
        ⟨"/home", "/"⟩ agenda :=
  ⟨List.reverse_perm _,
    unruled_writes_generic .standard _ (List.reverse_perm _) ⟨"/home", "/"⟩ agenda⟩

end Manuscript.Leanpub
