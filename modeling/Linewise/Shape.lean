/-
Statement shapes.

A statement that begins like an import, a class header, a decorator, a definition, an exception handler, a resource block
or an assertion is written in its own way; any other statement is emitted as it is. The shapes are tried in a fixed
order and the first whose pattern matches at the start decides. `Scope` is all that a shape can read or change: the last
class seen, and what the decorators said about the next definition.
-/
import Linewise.Config.Tables
import Linewise.Pattern.Matcher
import Linewise.Text.Blank

namespace Linewise

open Pattern

/-- the name of the class when a static definition comes before any class -/
def unknownClassName : Text := "???"

/-- what earlier statements say about later ones -/
structure Scope where
  /-- the last class header's name -/
  className : Text := unknownClassName
  /-- a static decorator awaits its definition -/
  nextIsStatic : Bool := false
  /-- a property decorator awaits its definition -/
  nextIsProperty : Bool := false
deriving DecidableEq, Repr, Inhabited

/-- the shapes of statements -/
inductive Shape where
  | importModule
  | importFrom
  | classWithBase
  | classHeader
  | staticDecorator
  | propertyDecorator
  | definition
  | tryBlock
  | handlerWithName
  | handlerOfType
  | handler
  | finallyBlock
  | resourceWithName
  | resource
  | assertion
deriving DecidableEq, Repr, Inhabited

namespace Shape

/-- the shapes in the order in which they are tried -/
def all : List Shape :=
  [.importModule, .importFrom, .classWithBase, .classHeader, .staticDecorator, .propertyDecorator, .definition,
    .tryBlock, .handlerWithName, .handlerOfType, .handler, .finallyBlock, .resourceWithName, .resource, .assertion]

def name : Shape → Text
  | .importModule => "import"
  | .importFrom => "from_import"
  | .classWithBase => "class_with_base"
  | .classHeader => "class"
  | .staticDecorator => "static_decorator"
  | .propertyDecorator => "property_decorator"
  | .definition => "def"
  | .tryBlock => "try"
  | .handlerWithName => "except_as"
  | .handlerOfType => "except_type"
  | .handler => "except"
  | .finallyBlock => "finally"
  | .resourceWithName => "with_as"
  | .resource => "with"
  | .assertion => "assert"

/-- a name (group `n`) -/
def word (n : Nat) : Pattern := .group n (plus wordChar)

/-- a dotted name (group `n`) -/
def dotted (n : Nat) : Pattern := .group n (plus dottedChar)

/-- what the start of a statement of the shape looks like -/
def pattern : Shape → Pattern
  | .importModule => .ofList (chars "import" ++ [wordBoundary])
  | .importFrom =>
    .ofList (chars "from" ++ [plus blank, dotted 1, plus blank] ++ chars "import" ++
      [wordBoundary, star any, lastLineEnd])
  | .classWithBase =>
    .ofList (chars "class" ++ [plus blank, word 1, star blank, char '(', star blank, dotted 2, star blank, char ')',
      lastLineEnd])
  | .classHeader => .ofList (chars "class" ++ [plus blank, word 1])
  | .staticDecorator => .ofList [char '@', .alt (literal "staticmethod") (literal "classmethod"), lastLineEnd]
  | .propertyDecorator => .ofList (chars "@property" ++ [lastLineEnd])
  | .definition =>
    .ofList (chars "def" ++ [plus blank, word 1, star blank, char '(', .group 2 (star any), char ')', lastLineEnd])
  | .tryBlock => .ofList (chars "try" ++ [lastLineEnd])
  | .handlerWithName =>
    .ofList (chars "except" ++ [plus blank, dotted 1, star blank,
      .alt (char ',') (.ofList ([plus blank] ++ chars "as" ++ [wordBoundary])), star blank, word 2, lastLineEnd])
  | .handlerOfType => .ofList (chars "except" ++ [plus blank, dotted 1, lastLineEnd])
  | .handler => .ofList (chars "except" ++ [lastLineEnd])
  | .finallyBlock => .ofList (chars "finally" ++ [lastLineEnd])
  | .resourceWithName =>
    .ofList (chars "with" ++ [plus blank, .group 1 (.many any 1 none .lazy), plus blank] ++ chars "as" ++
      [plus blank, word 2, lastLineEnd])
  | .resource => .ofList (chars "with" ++ [plus blank, .group 1 (plus any), lastLineEnd])
  | .assertion => .ofList (chars "assert" ++ [star blank, char '(', .group 1 (star any), char ')', lastLineEnd])

/-- the shape of a statement, with what its pattern found -/
def ofStatement? (t : Text) : Option (Shape × Found) :=
  all.findSome? fun s => (s.pattern.matchStart t).map fun f => (s, f)

end Shape

/-- the parameters of a definition: the pieces between commas, without blanks around them, empty ones left out -/
def parameters (list : Text) : List Text :=
  ((Text.splitOn ',' list).map Text.trim).filter fun p => !p.isEmpty

/-- the header of a definition -/
def definitionHeader (name : Text) (params : List Text) : Text :=
  if params.isEmpty then "def " ++ name else "def " ++ name ++ " (" ++ Text.join ", " params ++ ")"

/-- the parameters without a leading receiver -/
def dropReceiver (receivers params : List Text) : List Text :=
  match params with
  | [] => []
  | p :: rest => if receivers.contains p then rest else p :: rest

/-- a definition: special names are mapped, and a static definition is written on its class -/
def renderDefinition (tables : Tables) (scope : Scope) (name list : Text) : Text :=
  let mapped := match tables.lookup .specialMethods name with
    | some special => if special.isEmpty then name else special
    | none => name
  if scope.nextIsStatic then
    definitionHeader (scope.className ++ ['.'] ++ mapped) (dropReceiver ["self", "cls"] (parameters list))
  else definitionHeader mapped (dropReceiver ["self"] (parameters list))

/-- a statement `t` of a shape as it is emitted (nothing if it is left out), and the scope after it -/
def Shape.render (tables : Tables) (scope : Scope) (t : Text) (found : Found) : Shape → Option Text × Scope
  | .importModule => (some ("require" ++ found.place.after), scope)
  | .importFrom => (some ("require " ++ found.group 1), scope)
  | .classWithBase =>
    (some ("class " ++ found.group 1 ++ " < " ++ found.group 2), { scope with className := found.group 1 })
  | .classHeader => (some t, { scope with className := found.group 1 })
  | .staticDecorator => (none, { scope with nextIsStatic := true })
  | .propertyDecorator => (none, { scope with nextIsProperty := true })
  | .definition =>
    (some (renderDefinition tables scope (found.group 1) (found.group 2)),
      { scope with nextIsStatic := false, nextIsProperty := false })
  | .tryBlock => (some "begin", scope)
  | .handlerWithName => (some ("rescue " ++ found.group 1 ++ " => " ++ found.group 2), scope)
  | .handlerOfType => (some ("rescue " ++ found.group 1), scope)
  | .handler => (some "rescue", scope)
  | .finallyBlock => (some "ensure", scope)
  | .resourceWithName => (some (found.group 1 ++ " do |" ++ found.group 2 ++ "|"), scope)
  | .resource => (some (found.group 1 ++ " do"), scope)
  | .assertion => (some ("fail unless " ++ found.group 1), scope)

/-- the outcome for one statement -/
structure Dispatched where
  /-- the statement to emit, nothing if it is left out -/
  text : Option Text
  shape : Option Shape
  scope : Scope
deriving DecidableEq, Repr, Inhabited

/-- write a statement in the way of its shape -/
def dispatch (tables : Tables) (scope : Scope) (t : Text) : Dispatched :=
  match Shape.ofStatement? t with
  | none => ⟨some t, none, scope⟩
  | some (shape, found) => ⟨(shape.render tables scope t found).1, some shape, (shape.render tables scope t found).2⟩

end Linewise
