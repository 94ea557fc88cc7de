import Manuscript.Options.Basic
import Manuscript.Outcome

/-!
# Updates of options

Options are made from values given by name, all others staying as they are: the first options of a
class from its defaults, later ones from earlier ones. Names are looked at first and values then,
always in the same order, so that of several faults the same one is always reported. A check asks
of a value what it needs and nothing about its type, and most options have no check at all.
-/

namespace Manuscript

/-- Why values do not make options. -/
inductive OptionsError where
  | unknownName (optionsClass : OptionsClass) (name : String)
  | emphasis (given : Setting)
  | noBullets
  | fence (given : Setting)
  | fenceMin (given : Setting)
  /-- The length of a fence is of a type that has no order among numbers. -/
  | noOrder (typeName : String)
  | inlineMode (name : String) (given : Setting)
  | linkMode (given : Setting)
  /-- The image extensions are of a type that has no items. -/
  | noItems (typeName : String)
  | imageExtension (given : Setting)
  /-- An image extension is of a type that does not know how it begins. -/
  | noPrefix (typeName : String)
  /-- An image extension is bytes, which begin with bytes. -/
  | prefixNotBytes
deriving Repr

namespace OptionsError

def message : OptionsError → String
  | unknownName cls name =>
    cls.name ++ ".__init__() got an unexpected keyword argument '" ++ name ++ "'"
  | emphasis given => "emphasis_symbol must be '*' or '_', got " ++ given.shown
  | noBullets => "bullet_symbols must contain at least one character"
  | fence given => "code_fence_char must be '`' or '~', got " ++ given.shown
  | fenceMin given => "code_fence_min must be at least 3, got " ++ given.shown
  | noOrder typeName =>
    "'<' not supported between instances of '" ++ typeName ++ "' and 'int'"
  | inlineMode name given =>
    name ++ " must be one of ('html', 'markdown', 'ignore'), got " ++ given.shown
  | linkMode given => "unsupported_link_mode must be 'drop' or 'text', got " ++ given.shown
  | noItems typeName => "'" ++ typeName ++ "' object is not iterable"
  | imageExtension given =>
    "image_extensions entries must be non-empty and have no leading dot: " ++ given.shown
  | noPrefix typeName => "'" ++ typeName ++ "' object has no attribute 'startswith'"
  | prefixNotBytes => "startswith first arg must be bytes or a tuple of bytes, not str"

end OptionsError

/-! ## The fields of a class -/

/-- The type that an option is meant to have. -/
inductive Annotation where
  | truth | whole | text | texts
deriving DecidableEq, Repr

namespace BaseOptions

def fields : List (String × Annotation) := [("fail_on_dropped_content", .truth)]

def settings (o : BaseOptions) : Settings := [("fail_on_dropped_content", .bool o.failOnDropped)]

end BaseOptions

namespace MarkdownOptions

def fields : List (String × Annotation) :=
  BaseOptions.fields ++
    [("escape_special", .truth),
     ("emphasis_symbol", .text),
     ("bullet_symbols", .text),
     ("code_fence_char", .text),
     ("code_fence_min", .whole),
     ("underline_mode", .text),
     ("superscript_mode", .text),
     ("subscript_mode", .text),
     ("collapse_blank_lines", .truth),
     ("heading_level_offset", .whole)]

def settings (o : MarkdownOptions) : Settings :=
  o.toBaseOptions.settings ++
    [("escape_special", .bool o.escapeSpecial),
     ("emphasis_symbol", .text o.emphasis.text),
     ("bullet_symbols", .text (String.ofList o.bullets)),
     ("code_fence_char", .text (String.singleton o.fence.char)),
     ("code_fence_min", .int o.fenceMin),
     ("underline_mode", .text o.underline.name),
     ("superscript_mode", .text o.superscript.name),
     ("subscript_mode", .text o.subscript.name),
     ("collapse_blank_lines", .bool o.collapseBlankLines),
     ("heading_level_offset", .int o.levelOffset)]

end MarkdownOptions

namespace LeanpubOptions

def fields : List (String × Annotation) :=
  MarkdownOptions.fields ++
    [("image_extensions", .texts),
     ("image_link_types", .texts),
     ("external_link_schemes", .texts),
     ("unsupported_link_mode", .text)]

def settings (o : LeanpubOptions) : Settings :=
  o.toMarkdownOptions.settings ++
    [("image_extensions", .tuple (o.imageExtensions.map .text)),
     ("image_link_types", .tuple (o.imageSchemes.map .text)),
     ("external_link_schemes", .tuple (o.externalSchemes.map .text)),
     ("unsupported_link_mode", .text o.unsupportedLinks.name)]

end LeanpubOptions

namespace OptionsClass

/-- The options of a class, with the types that they are meant to have. -/
def fields : OptionsClass → List (String × Annotation)
  | base => BaseOptions.fields
  | markdown => MarkdownOptions.fields
  | leanpub => LeanpubOptions.fields

def names (cls : OptionsClass) : List String := cls.fields.map Prod.fst

end OptionsClass

/-- Options as the values that make them. -/
def Options.settings : Options → Settings
  | base o => o.settings
  | markdown o => o.settings
  | leanpub o => o.settings

/-! ## Checks -/

namespace Setting

def checkEmphasis (value : Setting) : Except OptionsError Unit :=
  require (value.isAmong ["*", "_"]) (.emphasis value)

def checkBullets (value : Setting) : Except OptionsError Unit :=
  require (!value.isNothing) .noBullets

def checkFence (value : Setting) : Except OptionsError Unit :=
  require (value.isAmong ["`", "~"]) (.fence value)

def checkFenceMin (value : Setting) : Except OptionsError Unit :=
  match value.isBelow? 3 with
  | some below => require (!below) (.fenceMin value)
  | Option.none => .error (.noOrder value.typeName)

def checkInlineMode (name : String) (value : Setting) : Except OptionsError Unit :=
  require (value.isAmong ["html", "markdown", "ignore"]) (.inlineMode name value)

def checkLinkMode (value : Setting) : Except OptionsError Unit :=
  require (value.isAmong ["drop", "text"]) (.linkMode value)

def checkExtension (value : Setting) : Except OptionsError Unit :=
  if value.isNothing then .error (.imageExtension value)
  else match value with
    | text s => require (s.toList.head? != some '.') (.imageExtension value)
    | _ =>
      if value.typeName ∈ ["bytes", "bytearray"] then .error .prefixNotBytes
      else .error (.noPrefix value.typeName)

/-- Checks the image extensions one after the other. -/
def checkExtensions (value : Setting) : Except OptionsError Unit :=
  match value.items? with
  | some items => forM items checkExtension
  | Option.none => .error (.noItems value.typeName)

end Setting

namespace Settings

/-- Refuses the first name that is no option of a class. -/
def checkNames (given : Settings) (cls : OptionsClass) : Except OptionsError Unit :=
  match given.find? fun entry => !cls.names.contains entry.1 with
  | some entry => .error (.unknownName cls entry.1)
  | none => .ok ()

/-- The same values, except those that are given anew. -/
def replace (values given : Settings) : Settings :=
  values.map fun field => (field.1, (given.lookup field.1).getD field.2)

@[simp] theorem map_fst_replace (values given : Settings) :
    (values.replace given).map Prod.fst = values.map Prod.fst := by
  simp [replace]

end Settings

theorem Options.map_fst_settings (o : Options) :
    o.settings.map Prod.fst = o.optionsClass.names := by
  cases o <;> rfl

/-- The values chosen for the options of a class, in the order of its fields. -/
structure Choices where
  optionsClass : OptionsClass
  settings : Settings
  names_eq : settings.map Prod.fst = optionsClass.names
deriving Repr

namespace Choices

/-- What is chosen for an option. -/
def value (o : Choices) (name : String) : Setting := (o.settings.lookup name).getD .none

/-- Options of known types as the values that make them. -/
def ofOptions (o : Options) : Choices := ⟨o.optionsClass, o.settings, o.map_fst_settings⟩

/-- What is chosen for a class unless something else is. -/
def default (cls : OptionsClass) : Choices := ofOptions (Options.default cls)

def checkMarkdown (o : Choices) : Except OptionsError Unit := do
  (o.value "emphasis_symbol").checkEmphasis
  (o.value "bullet_symbols").checkBullets
  (o.value "code_fence_char").checkFence
  (o.value "code_fence_min").checkFenceMin
  forM ["underline_mode", "superscript_mode", "subscript_mode"] fun name =>
    (o.value name).checkInlineMode name

def checkLeanpub (o : Choices) : Except OptionsError Unit := do
  o.checkMarkdown
  (o.value "unsupported_link_mode").checkLinkMode
  (o.value "image_extensions").checkExtensions

/-- The checks of a class; there are none for the options of every renderer. -/
def check (o : Choices) : Except OptionsError Unit :=
  match o.optionsClass with
  | .base => .ok ()
  | .markdown => o.checkMarkdown
  | .leanpub => o.checkLeanpub

/-- The same choices with other values for the names given, unchecked. -/
def replace (o : Choices) (given : Settings) : Choices :=
  ⟨o.optionsClass, o.settings.replace given, (o.settings.map_fst_replace given).trans o.names_eq⟩

/-- The same choices with other values for the names given. -/
def update (o : Choices) (given : Settings) : Except OptionsError Choices := do
  given.checkNames o.optionsClass
  (o.replace given).check
  return o.replace given

/-- The choices for a class from the values given. -/
def create (cls : OptionsClass) (given : Settings) : Except OptionsError Choices :=
  (default cls).update given

/-- Every state that a sequence of updates leads through; a refused update leaves the choices as
they were. -/
def updateAll (o : Choices) : List Settings → List (Except OptionsError Choices)
  | [] => []
  | given :: rest =>
    match o.update given with
    | .ok next => .ok next :: updateAll next rest
    | .error e => .error e :: updateAll o rest

end Choices

end Manuscript
