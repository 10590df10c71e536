/-
The body of a table while a document is read, and what may be said twice.

A body lists what was said about its keys in the order of the document, so that a key may stand in it several times.
That is allowed for tables alone: a table that longer headers and dotted keys only imply may come up again and again,
and one of its pieces may be a header's own. `tell` adds a piece or refuses it, `check` looks for clashes between the
pieces of one table, `gather` puts the pieces together.

Bodies within bodies go only so deep as keys have parts, so the depth bounds every recursion here.
-/
import Linewise.Toml.Key

namespace Linewise.Toml

mutual

/-- what is said about one key; `dotted` if a dotted key goes on after it -/
structure Piece where
  key : Text
  dotted : Bool
  node : Node

/-- a value, a table that may still grow, or an array of tables, last element first -/
inductive Node where
  | leaf (v : Value)
  /-- `implied` if neither a header nor a value names the table itself -/
  | table (implied : Bool) (body : List Piece)
  | tables (elements : List (List Piece))

end

deriving instance Inhabited for Node
deriving instance Inhabited for Piece

/-- the pieces of a table -/
abbrev Body := List Piece

/-- a bound on every recursion through bodies: a header and a dotted key below it nest at most twice `maxParts` bodies, and
no recursion takes more than three steps for one body -/
def deepest : Nat := 6 * (maxParts + 1)

/-- the table that a node is -/
def Node.body : Node → Body
  | .table _ body => body
  | _ => []

def Node.isTable : Node → Bool
  | .table .. => true
  | _ => false

/-- a node under a key of one part or more, as the only piece of a body -/
def Node.under (dotted : Bool) (node : Node) : List Text → Body
  | [] => []
  | [k] => [⟨k, false, node⟩]
  | k :: rest => [⟨k, dotted, .table true (node.under dotted rest)⟩]

namespace Body

/-- what is said about a key -/
def about (body : Body) (k : Text) : Body := body.filter (·.key = k)

/-- the keys in the order in which they first came -/
def keys : Body → List Text
  | [] => []
  | p :: rest => p.key :: (keys rest).filter (· ≠ p.key)

/-- the last piece under a key, if there is one -/
def last? (body : Body) (k : Text) : Option Piece := body.reverse.find? (·.key = k)

/-- the last table among the pieces has this key -/
def endsWithTable (body : Body) (k : Text) : Bool := (body.reverse.find? (·.node.isTable)).any (·.key = k)

/-- change the last piece under a key -/
def setLast (k : Text) (node : Node) (body : Body) : Body := (go body.reverse).reverse
where
  go : Body → Body
    | [] => []
    | p :: rest => if p.key = k then { p with node } :: rest else p :: go rest

/-- the bodies of all tables among the pieces, one after another -/
def joined (pieces : Body) : Body := pieces.flatMap (·.node.body)

/-- a key under which something comes after a piece that is no table -/
def seam? : Body → Option Text
  | [] => none
  | p :: rest => if !p.node.isTable && rest.any (·.key = p.key) then some p.key else seam? rest

/-- refuse a seam -/
def seamless (body : Body) : Except Clash Unit :=
  match seam? body with
  | none => .ok ()
  | some k => .error (.repeated k)

/-- what is said about a key can be put together -/
def look (body : Body) (k : Text) : Except Clash Unit :=
  match body.about k with
  | p :: q :: rest => seamless (joined (p :: q :: rest))
  | _ => .ok ()

mutual

/-- say one thing more; with `checked`, pieces of one table are compared at once -/
def tell : Nat → Bool → Body → Piece → Except Clash Body
  | 0, _, body, _ => .ok body
  | deep + 1, checked, body, p =>
    match (body.last? p.key).map fun q => (q.dotted, q.node) with
    | none => .ok (body ++ [p])
    | some (dotted, .table true outer) =>
      match p.node with
      | .table true inner =>
        if p.dotted || dotted || !body.endsWithTable p.key then addPiece deep checked body p
        else return body.setLast p.key (.table true (← extend deep outer inner))
      | .table false _ => if dotted then .error .reopened else addPiece deep checked body p
      | _ => .error (.repeated p.key)
    | some (_, .table false _) =>
      match p.node with
      | .table true _ => addPiece deep checked body p
      | _ => .error (.repeated p.key)
    | some (_, .tables (last :: others)) =>
      match p.node with
      | .table true inner => return body.setLast p.key (.tables ((← extend deep last inner) :: others))
      | .tables more => .ok (body.setLast p.key (.tables (more ++ last :: others)))
      | _ => .error (.repeated p.key)
    | some _ => .error (.repeated p.key)

/-- add a further piece of a table -/
def addPiece : Nat → Bool → Body → Piece → Except Clash Body
  | 0, _, body, p => .ok (body ++ [p])
  | deep + 1, checked, body, p => do
    let body := body ++ [p]
    if checked then check deep body p.key
    return body

/-- say several things more within a table, each of which must go together with what stands there -/
def extend : Nat → Body → Body → Except Clash Body
  | 0, body, _ => .ok body
  | deep + 1, body, pieces =>
    pieces.foldlM (fun body p => do
      let body ← tell deep true body p
      look body p.key
      return body) body

/-- the pieces of one table do not clash -/
def check : Nat → Body → Text → Except Clash Unit
  | 0, _, _ => .ok ()
  | deep + 1, body, k =>
    match body.about k with
    | p :: q :: rest => do
      let body ← (joined (p :: q :: rest)).foldlM (tell deep false) []
      body.keys.forM (check deep body)
    | _ => .ok ()

end

/-- say one thing more within the table of a section -/
def add (checked : Bool) (body : Body) (p : Piece) : Except Clash Body := do
  let body ← tell deepest checked body p
  look body p.key
  return body

/-- the pieces under every key go together -/
def checkAll (body : Body) : Except Clash Unit := body.keys.forM (check deepest body)

mutual

/-- the entries that a body amounts to -/
def gather : Nat → Body → Except Clash Entries
  | 0, _ => .ok []
  | deep + 1, body =>
    body.keys.mapM fun k => do
      match body.about k with
      | [p] => return (k, ← gatherNode deep p.node)
      | pieces =>
        seamless (joined pieces)
        return (k, .table (← gather deep (joined pieces)))

/-- the value that a node amounts to -/
def gatherNode : Nat → Node → Except Clash Value
  | 0, _ => .ok .absent
  | _ + 1, .leaf v => .ok v
  | deep + 1, .table _ body => return .table (← gather deep body)
  | deep + 1, .tables elements =>
    return .list (← elements.reverse.mapM fun body => do return .table (← gather deep body))

end

end Body

end Linewise.Toml
