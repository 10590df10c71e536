/-
Converting inputs: the standard input and files, one after another, into one output.

The output is opened before the inputs are read, and lines are written through a buffer; so of an input that is also the
output only that is read which has left the buffer. A file that cannot be converted is passed over; the standard input
stops the conversion when it cannot be. It is converted as it arrives, so the lines before bytes that are no text are
converted first. What went wrong first decides the code.
-/
import Linewise.CommandLine.Settings
import Linewise.Text.Utf8.Blocks

namespace Linewise

/-- how far a conversion got -/
structure Conversions where
  events : List Event := []
  reports : List Report := []
  /-- the code of the first input that failed -/
  code : Option ExitCode := none
  /-- why the conversion stopped before its last input -/
  halt : Option Halt := none
deriving DecidableEq, Repr, Inhabited

namespace Conversions

/-- one input after another -/
def append (a b : Conversions) : Conversions where
  events := a.events ++ b.events
  reports := a.reports ++ b.reports
  code := a.code.or b.code
  halt := b.halt

/-- how the standard input is named in messages -/
def inputName : Text := "<stdin>"

/-- convert the standard input -/
def ofInput (config : Config) (input : Bytes) (withBanner : Bool) : Conversions :=
  let heading := if withBanner then banner config.layout inputName else []
  match Utf8.decode input with
  | .error fault =>
    let (text, met) := Utf8.readBefore input fault
    let t := Conversion.feedAll config {} (Text.wholeLines text)
    { events := [.converted (heading ++ t.text config.layout)]
      halt := some (match t.fault with
        | some fault => .crashed (.pattern fault)
        | none => .refused .encodingError ("Cannot decode STDIN as UTF-8: " ++ met.message)) }
  | .ok text =>
    let t := Conversion.ofText config text
    { events := .converted (heading ++ t.text config.layout) :: (t.records inputName).map .logged
      reports := if t.fault.isNone then [⟨inputName, t.final.context⟩] else []
      halt := t.fault.map fun fault => .crashed (.pattern fault) }

/-- convert a file -/
def ofFile (config : Config) (tree : FileTree) (withBanner : Bool) (path : Text) : Conversions :=
  let b := Batch.file config tree withBanner path
  { events := .converted b.output :: b.records.map .logged ++
      (b.code.map fun code => Event.failed ("Error: cannot translate " ++ path ++ " (" ++ code.name ++ ")")).toList
    reports := b.reports
    code := b.code }

/-- convert one input -/
def one (config : Config) (input : Bytes) (tree : FileTree) (withBanner : Bool) (path : Text) : Conversions :=
  if path = dash then ofInput config input withBanner else ofFile config tree withBanner path

/-- the converted text -/
def text (c : Conversions) : Text := c.events.flatMap Event.convertedText

/-- inputs one after another, up to the first at which the conversion stops; `convert` has the text before an input at
hand -/
def along (convert : Text → Text → Conversions) (before : Text) : List Text → Conversions
  | [] => {}
  | path :: rest =>
    let c := convert before path
    if c.halt.isSome then c else c.append (along convert (before ++ c.text) rest)

/-- convert the inputs, with the files as they are in the tree -/
def run (config : Config) (input : Bytes) (tree : FileTree) (withBanner : Bool) : List Text → Conversions :=
  along (fun _ path => one config input tree withBanner path) []

/-- the number of bytes that fill the buffer of a file -/
def bufferSize : Nat := 8192

/-- how many bytes of a text that is written line by line have left the buffer, which holds some bytes before it; a line
that fills the buffer empties it -/
def flushedSize (held : Nat) : Text → Nat
  | [] => 0
  | c :: rest =>
    let held := held + (Utf8.encodeChar c).length
    if c = '\n' && bufferSize ≤ held then held + flushedSize 0 rest else flushedSize held rest

/-- what of a text has reached the file -/
def flushed (t : Text) : Bytes := (Utf8.encode t).take (flushedSize 0 t)

/-- convert the inputs into the file at a place; of the text before an input, what has reached the file is there -/
def save (config : Config) (input : Bytes) (tree : FileTree) (place : Place) (withBanner : Bool) :
    List Text → Conversions :=
  along (fun before path => one config input (tree.put place (.file (flushed before))) withBanner path) []

/-- what is said about a conversion at the end: its warnings, and its size if the text went elsewhere -/
def notes (isElsewhere : Bool) (r : Report) : List Event :=
  r.context.warnings.map (fun w => .warned (r.source ++ ": " ++ w.render)) ++
    if isElsewhere then
      [.printed (some Event.blue) (r.source ++ ": " ++ Text.ofNat r.context.lineNumber ++ " line(s) in, " ++
        Text.ofNat r.context.linesEmitted ++ " line(s) out")]
    else []

/-- the ending of a conversion that writes to the standard output; `notes` are said if nothing stopped it -/
def ending (c : Conversions) (before : List Event) (notes : Report → List Event) : Ending :=
  match c.halt with
  | some halt => halt.ending (before ++ c.events)
  | none => { code := c.code.getD .success, events := before ++ c.events ++ c.reports.flatMap notes }

end Conversions

/-- the ending with the converted text in a file -/
def Ending.into (o : Ending) (place : Place) : Ending :=
  { o with events := o.events.filter Event.isSaid, written := some (place, o.events.flatMap Event.convertedText) }

/-- run `convert` -/
def World.convert (w : World) (verbosity : Level) (inputs : List Text) (output : Option Text) (o : SettingsOptions) :
    Ending :=
  if 1 < inputs.count dash then
    (Halt.refused .usageError (Text.quoted dash ++ " (STDIN) may be given only once.")).ending []
  else match w.settings o with
    | .error ending => ending
    | .ok config =>
      let isTold : Bool := verbosity ≤ Level.info
      let before := config.events ++
        if isTold then config.warnings.map fun warning => .warned ("config: " ++ warning.render) else []
      let withBanner : Bool := 1 < inputs.length
      let path := output.getD []
      let notes := fun r => if isTold then Conversions.notes (!path.isEmpty) r else []
      if path.isEmpty || path = dash then
        (Conversions.run config w.input w.tree withBanner inputs).ending before notes
      else match w.tree.findWritable path with
        | .error fault => (Halt.refused .ioError ("Cannot write output: " ++ fault.message)).ending before
        | .ok place =>
          let opened := w.tree.put place (.file [])
          ((Conversions.save config w.input opened place withBanner inputs).ending before notes).into place

end Linewise
