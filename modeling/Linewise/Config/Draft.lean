/-
Drafts: layers of settings, before they are in force.

A draft sets some of the settings. `merge` puts a higher layer over a lower one: a layout value that the higher layer
sets replaces the lower one, tables are merged key by key. `sanitize` drops the values that cannot work, with a warning
for each; `freeze` sanitizes, takes the standard layout for what is still unset, and gives the settings in force. Two
things make that impossible: an indentation unit that cannot work and is too long for the warning about it, and a key
that is a pattern, but asks for more than patterns can do.
-/
import Linewise.Config.Checked
import Linewise.Config.Default

namespace Linewise

/-- the layout values that a layer sets -/
structure DraftLayout where
  indentWidth : Option Int := none
  terminator : Option Text := none
  commentPrefix : Option Text := none
  continuationMarker : Option Text := none
  blockOpener : Option Text := none
  blockStringDelimiters : Option (List Text) := none
  continuationKeywords : Option (List Text) := none
deriving DecidableEq, Repr, Inhabited

/-- a layer of settings -/
structure Draft where
  layout : DraftLayout := {}
  tables : Tables := {}
  sources : List Text := []
  warnings : List Warning := []
deriving DecidableEq, Inhabited

/-- the values of `higher`, and those of `lower` that it leaves unset -/
def DraftLayout.merge (lower higher : DraftLayout) : DraftLayout where
  indentWidth := higher.indentWidth.or lower.indentWidth
  terminator := higher.terminator.or lower.terminator
  commentPrefix := higher.commentPrefix.or lower.commentPrefix
  continuationMarker := higher.continuationMarker.or lower.continuationMarker
  blockOpener := higher.blockOpener.or lower.blockOpener
  blockStringDelimiters := higher.blockStringDelimiters.or lower.blockStringDelimiters
  continuationKeywords := higher.continuationKeywords.or lower.continuationKeywords

/-- the layout with the standard values for what is unset -/
def DraftLayout.complete (d : DraftLayout) : Layout where
  indentWidth := (d.indentWidth.map Int.toNat).getD Layout.standard.indentWidth
  terminator := d.terminator.getD Layout.standard.terminator
  commentPrefix := d.commentPrefix.getD Layout.standard.commentPrefix
  continuationMarker := d.continuationMarker.getD Layout.standard.continuationMarker
  blockOpener := d.blockOpener.getD Layout.standard.blockOpener
  blockStringDelimiters := d.blockStringDelimiters.getD Layout.standard.blockStringDelimiters
  continuationKeywords := d.continuationKeywords.getD Layout.standard.continuationKeywords

/-- a layout with every value set -/
def Layout.thaw (l : Layout) : DraftLayout where
  indentWidth := some l.indentWidth
  terminator := some l.terminator
  commentPrefix := some l.commentPrefix
  continuationMarker := some l.continuationMarker
  blockOpener := some l.blockOpener
  blockStringDelimiters := some l.blockStringDelimiters
  continuationKeywords := some l.continuationKeywords

/-- why data or a draft cannot be put in force -/
inductive ConfigFault where
  /-- a warning cannot be made -/
  | unshowable (fault : Checked.Unshowable)
  /-- a key asks for more than patterns can do -/
  | pattern (fault : Pattern.Fault)
deriving DecidableEq, Repr, Inhabited

namespace Draft

/-- put the layer `higher` over the layer `lower` -/
def merge (lower higher : Draft) : Draft where
  layout := lower.layout.merge higher.layout
  tables := lower.tables.merge higher.tables
  sources := lower.sources ++ higher.sources
  warnings := lower.warnings ++ higher.warnings

/-! ### Values that cannot work -/

/-- an indentation unit has at least one column -/
def sanitizeIndent (v : Option Int) : Option Int × List Warning :=
  match v with
  | none => (none, [])
  | some n =>
    if n < 1 then (none, [{ message := "Ignoring non-positive [layout].indent_width: " ++ Text.ofInt n }])
    else (some n, [])

/-- the unit has less than one column, and more digits than the warning about it can quote -/
def endlessUnit? (v : Option Int) : Option Checked.Unshowable :=
  if v.any fun n => n < 1 && !(Value.int n).isShowable then some ⟨"[layout].indent_width"⟩ else none

/-- the marker is not empty: every line ends with the empty text -/
def sanitizeMarker (v : Option Text) : Option Text × List Warning :=
  if v = some [] then (none, [{ message := "Ignoring empty [layout].continuation_marker" }]) else (v, [])

/-- no delimiter is empty: every line begins with the empty text -/
def sanitizeDelimiters (v : Option (List Text)) : Option (List Text) × List Warning :=
  match v with
  | none => (none, [])
  | some ds =>
    (some (ds.filter fun d => !d.isEmpty),
      if ds.any List.isEmpty then [{ message := "Ignoring empty [layout].block_string_delimiters entry" }] else [])

/-- what is wrong with a key as a pattern -/
def keyFault? (k : Text) : Option Pattern.Fault :=
  match Pattern.read k with
  | .ok _ => none
  | .error fault => some fault

/-- the warning about a key that is no pattern -/
def keyWarning? (k : Text) : Option Warning :=
  (keyFault? k).map fun fault =>
    { message := "Ignoring invalid [reserved_words] key " ++ Text.quoted k ++ ": " ++ fault.message }

/-- the first key that asks for more than patterns can do, with the fault; nothing can be done about it -/
def excess? (t : Table Text) : Option Pattern.Fault := (t.keys.filterMap keyFault?).find? (!·.cause.isMistake)

/-- the keys before the first one that asks for more than patterns can do -/
def examinedKeys (t : Table Text) : List Text := t.keys.takeWhile fun k => (keyFault? k).all (·.cause.isMistake)

/-- drop what cannot work, with a warning for each value; the keys from the first one on that asks for more than
patterns can do are left alone -/
def prune (d : Draft) : Draft :=
  let (indent, w₁) := sanitizeIndent d.layout.indentWidth
  let (marker, w₂) := sanitizeMarker d.layout.continuationMarker
  let (delimiters, w₃) := sanitizeDelimiters d.layout.blockStringDelimiters
  let words := d.tables.reservedWords
  let examined := examinedKeys words
  { d with
    layout :=
      { d.layout with indentWidth := indent, continuationMarker := marker, blockStringDelimiters := delimiters }
    tables :=
      { d.tables with reservedWords := words.filterKeys fun k => (keyFault? k).isNone || !examined.contains k }
    warnings := d.warnings ++ w₁ ++ w₂ ++ w₃ ++ examined.filterMap keyWarning? }

/-- drop what cannot work; the unit comes first, so nothing is dropped if the warning about it cannot be made -/
def sanitize (d : Draft) : Draft := if (endlessUnit? d.layout.indentWidth).isSome then d else d.prune

/-- what keeps a draft from being put in force -/
def fault? (d : Draft) : Option ConfigFault :=
  ((endlessUnit? d.layout.indentWidth).map .unshowable).or ((excess? d.tables.reservedWords).map .pattern)

/-- the settings of a draft in which every value works -/
def complete (d : Draft) : Config where
  layout := d.layout.complete
  tables := d.tables
  sources := d.sources
  warnings := d.warnings

/-- the settings in force, unless sanitizing fails -/
def freeze (d : Draft) : Except ConfigFault Config :=
  match d.fault? with
  | some fault => .error fault
  | none => .ok d.sanitize.complete

/-- the standard settings as a layer -/
def standard : Draft where
  layout := Layout.standard.thaw
  tables := Tables.standard

end Draft

/-- settings in force as a layer that sets everything -/
def Config.thaw (c : Config) : Draft where
  layout := c.layout.thaw
  tables := c.tables
  sources := c.sources
  warnings := c.warnings

/-- the standard settings -/
def Config.standard : Config := Draft.standard.complete

end Linewise
