/-
Settings as documents: which sections and keys there are, a layer from a document, and a document from settings.
-/
import Linewise.Config.Draft
import Linewise.Toml.Writer

namespace Linewise

/-- the keys of the layout section -/
inductive LayoutKey where
  | indentWidth
  | terminator
  | commentPrefix
  | continuationMarker
  | blockOpener
  | blockStringDelimiters
  | continuationKeywords
deriving DecidableEq, Repr, Inhabited

namespace LayoutKey

def all : List LayoutKey :=
  [.indentWidth, .terminator, .commentPrefix, .continuationMarker, .blockOpener, .blockStringDelimiters,
    .continuationKeywords]

def name : LayoutKey → Text
  | .indentWidth => "indent_width"
  | .terminator => "terminator"
  | .commentPrefix => "comment_prefix"
  | .continuationMarker => "continuation_marker"
  | .blockOpener => "block_opener"
  | .blockStringDelimiters => "block_string_delimiters"
  | .continuationKeywords => "continuation_keywords"

end LayoutKey

/-- the name of the layout section -/
def layoutSection : Text := "layout"

/-- the sections that a document may have -/
def knownSections : List Text := layoutSection :: TableKind.all.map TableKind.name

/-- the layout values of a section -/
def DraftLayout.ofEntries (es : Entries) : Checked.Result DraftLayout :=
  let context := Checked.bracketed layoutSection
  let (indentWidth, r₁) := Checked.int? context LayoutKey.indentWidth.name es
  let (terminator, r₂) := Checked.text? context LayoutKey.terminator.name es
  let (commentPrefix, r₃) := Checked.text? context LayoutKey.commentPrefix.name es
  let (continuationMarker, r₄) := Checked.text? context LayoutKey.continuationMarker.name es
  let (blockOpener, r₅) := Checked.text? context LayoutKey.blockOpener.name es
  let (blockStringDelimiters, r₆) := Checked.texts? context LayoutKey.blockStringDelimiters.name es
  let (continuationKeywords, r₇) := Checked.texts? context LayoutKey.continuationKeywords.name es
  ({ indentWidth, terminator, commentPrefix, continuationMarker, blockOpener, blockStringDelimiters,
      continuationKeywords },
    Checked.unknownKeys context (LayoutKey.all.map LayoutKey.name) es ++ r₁ ++ r₂ ++ r₃ ++ r₄ ++ r₅ ++ r₆ ++ r₇)

/-- the four tables of a document -/
def Tables.ofEntries (es : Entries) : Checked.Result Tables :=
  let (reservedWords, r₁) := Checked.mapping TableKind.reservedWords.name es
  let (functionsToMethods, r₂) := Checked.mapping TableKind.functionsToMethods.name es
  let (functionsToFunctions, r₃) := Checked.mapping TableKind.functionsToFunctions.name es
  let (specialMethods, r₄) := Checked.mapping TableKind.specialMethods.name es
  ({ reservedWords, functionsToMethods, functionsToFunctions, specialMethods }, r₁ ++ r₂ ++ r₃ ++ r₄)

/-- the layer that a document describes; what it cannot mean is left out with a warning -/
def Draft.ofEntries (es : Entries) (source : Option Text) : Except Checked.Unshowable Draft := do
  let (layout, r₁) := DraftLayout.ofEntries (Checked.table es layoutSection)
  let (tables, r₂) := Tables.ofEntries es
  let warnings ← Checked.warnings (Checked.unknownKeys "top level" knownSections es ++ r₁ ++ r₂)
  return { layout, tables, sources := source.toList, warnings }

/-- the layout as a section -/
def Layout.toEntries (l : Layout) : Entries :=
  [(LayoutKey.indentWidth.name, .int l.indentWidth),
    (LayoutKey.terminator.name, .text l.terminator),
    (LayoutKey.commentPrefix.name, .text l.commentPrefix),
    (LayoutKey.continuationMarker.name, .text l.continuationMarker),
    (LayoutKey.blockOpener.name, .text l.blockOpener),
    (LayoutKey.blockStringDelimiters.name, .list (l.blockStringDelimiters.map .text)),
    (LayoutKey.continuationKeywords.name, .list (l.continuationKeywords.map .text))]

/-- a table as a section -/
def Table.toEntries (t : Table Text) : Entries := t.entries.map fun e => (e.1, .text e.2)

/-- the settings as a document -/
def Config.toEntries (c : Config) : Entries :=
  (layoutSection, .table c.layout.toEntries) ::
    TableKind.all.map fun kind => (kind.name, .table (c.tables.table kind).toEntries)

/-- the settings as the text of a document -/
def Config.render (c : Config) : Text := Toml.write c.toEntries

/-- the settings for a caller who gives data instead of documents: a table is put over the standard settings, and
anything else means the standard settings -/
def Config.resolve (data : Value) : Except ConfigFault Config :=
  match data with
  | .table es => do
    let layer ← (Draft.ofEntries es none).mapError .unshowable
    (Draft.standard.merge layer).freeze
  | _ => .ok Config.standard

end Linewise
