import Manuscript.Options.Update

/-!
# Options read from choices

Renderers work with options whose types admit valid values only. Choices whose values have the
types that their fields are meant to have are read as such options; there are none for others.
-/

namespace Manuscript

/-- The mark that a text names, of the marks there are. -/
def Setting.mark? {α : Type} (marks : List α) (name : α → String) : Setting → Option α
  | text s => marks.find? fun mark => name mark == s
  | _ => Option.none

def EmphasisMark.read? : Setting → Option EmphasisMark := Setting.mark? [asterisk, underscore] text

def FenceMark.read? : Setting → Option FenceMark :=
  Setting.mark? [backtick, tilde] fun mark => String.singleton mark.char

def InlineMode.read? : Setting → Option InlineMode := Setting.mark? [html, markdown, ignore] name

def LinkMode.read? : Setting → Option LinkMode := Setting.mark? [drop, text] name

/-- Bullets to choose from: at least one character. -/
def readBullets? (value : Setting) : Option { cs : List Char // cs ≠ [] } := do
  let s ← value.text?
  if some : s.toList ≠ [] then return ⟨s.toList, some⟩ else failure

/-- The length of the shortest fence: at least three. -/
def readFenceMin? (value : Setting) : Option { n : Nat // 3 ≤ n } := do
  let n ← value.int?
  if enough : 3 ≤ n.toNat then return ⟨n.toNat, enough⟩ else failure

/-- File extensions. -/
def readExtensions? (value : Setting) : Option { es : List String // ∀ e ∈ es, IsExtension e } := do
  let es ← value.texts?
  if valid : ∀ e ∈ es, IsExtension e then return ⟨es, valid⟩ else failure

namespace Choices

def base? (o : Choices) : Option BaseOptions := do
  return { failOnDropped := ← (o.value "fail_on_dropped_content").bool? }

def markdown? (o : Choices) : Option MarkdownOptions := do
  let toBaseOptions ← o.base?
  let escapeSpecial ← (o.value "escape_special").bool?
  let emphasis ← EmphasisMark.read? (o.value "emphasis_symbol")
  let ⟨bullets, bullets_ne_nil⟩ ← readBullets? (o.value "bullet_symbols")
  let fence ← FenceMark.read? (o.value "code_fence_char")
  let ⟨fenceMin, three_le_fenceMin⟩ ← readFenceMin? (o.value "code_fence_min")
  let underline ← InlineMode.read? (o.value "underline_mode")
  let superscript ← InlineMode.read? (o.value "superscript_mode")
  let subscript ← InlineMode.read? (o.value "subscript_mode")
  let collapseBlankLines ← (o.value "collapse_blank_lines").bool?
  let levelOffset ← (o.value "heading_level_offset").int?
  return {
    toBaseOptions, escapeSpecial, emphasis, bullets, bullets_ne_nil, fence, fenceMin,
    three_le_fenceMin, underline, superscript, subscript, collapseBlankLines, levelOffset }

def leanpub? (o : Choices) : Option LeanpubOptions := do
  let toMarkdownOptions ← o.markdown?
  let ⟨imageExtensions, isExtension⟩ ← readExtensions? (o.value "image_extensions")
  let imageSchemes ← (o.value "image_link_types").texts?
  let externalSchemes ← (o.value "external_link_schemes").texts?
  let unsupportedLinks ← LinkMode.read? (o.value "unsupported_link_mode")
  return {
    toMarkdownOptions, imageExtensions, isExtension, imageSchemes, externalSchemes,
    unsupportedLinks }

/-- The options of the class that the choices make. -/
def options? (o : Choices) : Option Options :=
  match o.optionsClass with
  | .base => .base <$> o.base?
  | .markdown => .markdown <$> o.markdown?
  | .leanpub => .leanpub <$> o.leanpub?

end Choices

end Manuscript
