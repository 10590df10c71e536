/-
The line assembler: one input line at a time, in one of three modes.

Blank lines are counted and released by the next statement. A line that begins with a block-string delimiter, and every
line up to the one with the closing delimiter, becomes a comment. A line after a continuation marker is copied through.
Any other line is a fresh statement: its blocks are closed, it is edited and dispatched, and emitted at its own
indentation. `feed` takes one line, `finish` closes what is open at the end of the input; only a fresh statement can
fail, and it then emits nothing.
-/
import Linewise.Indent
import Linewise.Edit.Steps
import Linewise.Shape
import Linewise.Terminator
import Linewise.Text.Newline

namespace Linewise

/-- what is expected of the next line -/
inductive Mode where
  | normal
  | inBlockComment
  | inContinuation
deriving DecidableEq, Repr, Inhabited

def Mode.name : Mode → Text
  | .normal => "normal"
  | .inBlockComment => "in block comment"
  | .inContinuation => "in continuation"

/-- the state of a conversion between two lines -/
structure Context where
  mode : Mode := .normal
  margin : Margin := {}
  /-- the last line ended with the continuation marker -/
  inContinuation : Bool := false
  scope : Scope := {}
  /-- how many lines were read -/
  lineNumber : Nat := 0
  /-- how many lines were emitted -/
  linesEmitted : Nat := 0
  warnings : List Warning := []
deriving DecidableEq, Repr, Inhabited

/-- the last block string that was opened -/
structure BlockString where
  delimiter : Text := []
  width : Nat := 0
  startLine : Nat := 0
deriving DecidableEq, Repr, Inhabited

/-- the assembler: the context and the last block string -/
structure Assembler where
  context : Context := {}
  blockString : BlockString := {}
deriving DecidableEq, Repr, Inhabited

/-- the lines that came out, or why none did, and the state afterwards -/
abbrev Outcome := Except Pattern.Fault (List OutLine) × Assembler

namespace Assembler

/-- count the lines that are emitted -/
def emit (a : Assembler) (lines : List OutLine) : Outcome :=
  (.ok lines, { a with context := { a.context with linesEmitted := a.context.linesEmitted + lines.length } })

/-- a blank line, or a statement of which nothing is left: one more line is owed and the indentation is unchanged -/
def countBlank (m : Margin) : Margin := { m with pendingBlanks := m.pendingBlanks + 1, current := m.previous }

/-- one line of the open block string; the closing delimiter ends it, and what follows it is dropped -/
def commentLine (a : Assembler) (text : Text) : Outcome :=
  match Text.before? a.blockString.delimiter text with
  | some inside =>
    { a with context := { a.context with mode := .normal } }.emit [.comment a.blockString.width (Text.trimRight inside)]
  | none => a.emit [.comment a.blockString.width text]

/-- expect a continuation, or not -/
def setContinuation (c : Context) (continued : Bool) : Context :=
  { c with inContinuation := continued, mode := if continued then .inContinuation else .normal }

/-- the statement without the marker at its end (if it is continued) and without the block opener before that -/
def statementText (layout : Layout) (continued : Bool) (text : Text) : Text :=
  let unmarked := if continued then Text.trimRight (text.dropEnd layout.continuationMarker.length) else text
  if !layout.blockOpener.isEmpty && unmarked.endsWith layout.blockOpener then
    Text.trimRight (unmarked.dropEnd layout.blockOpener.length)
  else unmarked

/-- a fresh statement; the margin already stands at its width -/
def statement (config : Config) (a : Assembler) (continued : Bool) (text : Text) : Outcome :=
  let source := statementText config.layout continued text
  match Edit.statement config.tables source with
  | .error fault => (.error fault, a)
  | .ok edited =>
    if edited.isEmpty && !continued then
      { a with context := { a.context with margin := countBlank a.context.margin } }.emit []
    else
      let closed := closeBlocks config.layout.indentWidth
        (isBlockContinuation config.layout.continuationKeywords source) a.context.margin
      let dispatched := dispatch config.tables a.context.scope edited
      let context := { setContinuation a.context continued with margin := closed.2, scope := dispatched.scope }
      let own := match dispatched.text with
        | none => []
        | some t =>
          [OutLine.statement closed.2.current (if continued then t ++ config.layout.continuationMarker else t)]
      { a with context := context }.emit (closed.1 ++ own)

/-- the first delimiter, in the order of the layout, that the line begins with -/
def openingDelimiter? (layout : Layout) (text : Text) : Option Text :=
  layout.blockStringDelimiters.find? text.startsWith

/-- one input line, with or without its line end -/
def feed (config : Config) (a : Assembler) (raw : Text) : Outcome :=
  let line := raw.chomp
  let a := { a with context := { a.context with lineNumber := a.context.lineNumber + 1 } }
  match a.context.mode with
  | .inBlockComment => a.commentLine (Text.trim line)
  | mode =>
    let text := Indent.rest line
    let width := Indent.width (Indent.leading line)
    let continued := text.endsWith config.layout.continuationMarker
    let margin := { a.context.margin with previous := a.context.margin.current, current := width }
    let back := { margin with current := margin.previous }
    if text.isEmpty then { a with context := { a.context with margin := countBlank margin } }.emit []
    else if mode = .inContinuation then
      { a with context := { setContinuation a.context continued with margin := back } }.emit [.interior width text]
    else
      match openingDelimiter? config.layout text with
      | some delimiter =>
        commentLine
          { context := { a.context with margin := back, mode := .inBlockComment }
            blockString := ⟨delimiter, width, a.context.lineNumber⟩ }
          (Text.trim (text.drop delimiter.length))
      | none => statement config { a with context := { a.context with margin := margin } } continued text

/-- the warning about what is still open at the end of the input -/
def unfinished (a : Assembler) : List Warning :=
  match a.context.mode with
  | .normal => []
  | .inBlockComment =>
    [⟨"Unterminated block string (missing " ++ a.blockString.delimiter ++ ")", some a.blockString.startLine⟩]
  | .inContinuation => [⟨"Input ends with a continuation marker", some a.context.lineNumber⟩]

/-- the line on which the open block string began -/
def openLine? (a : Assembler) : Option Nat :=
  if a.context.mode = .inBlockComment then some a.blockString.startLine else none

/-- close everything that is open at the end of the input -/
def finish (config : Config) (a : Assembler) : List OutLine × Assembler :=
  let closed := closeBlocks config.layout.indentWidth false { a.context.margin with current := 0 }
  (closed.1,
    { a with
      context :=
        { a.context with
          mode := .normal
          inContinuation := false
          margin := closed.2
          linesEmitted := a.context.linesEmitted + closed.1.length
          warnings := a.context.warnings ++ a.unfinished } })

end Assembler

end Linewise
