/-
Keys of settings documents: parts between dots, each bare or a string on one line.

A key has at most `maxParts` parts.
-/
import Linewise.Toml.Quoted
import Linewise.Toml.Writer

namespace Linewise.Toml

/-- one part of a key, with the spaces around it -/
def readKeyPart (t : Text) : Except Stop (Text × Text) :=
  match skipSpaces t with
  | [] => stop .emptyKey []
  | c :: rest =>
    if c = '"' || c = '\'' then do
      let ((k, long), rest) ← readString c (c :: rest)
      if long then stop (.unexpected c) rest
      return (k, skipSpaces rest)
    else
      let bare := fun d => isBareChar d || isSpace d
      let k := Text.dropEndWhile isSpace ((c :: rest).takeWhile bare)
      let rest := (c :: rest).dropWhile bare
      if k.isEmpty then stop .emptyKey rest
      else if k.any isSpace then stop .blankInKey rest
      else .ok (k, rest)

/-- how many parts a key has at most -/
def maxParts : Nat := 100

/-- a key of at most `n` parts between dots -/
def readParts : Nat → Text → Except Stop (List Text × Text)
  | 0, t => stop .tooManyParts t
  | n + 1, t => do
    let (k, rest) ← readKeyPart t
    match rest with
    | '.' :: rest =>
      let (ks, rest) ← readParts n rest
      return (k :: ks, rest)
    | rest => return ([k], rest)

/-- a key: parts between dots -/
def readKey (t : Text) : Except Stop (List Text × Text) := readParts maxParts t

end Linewise.Toml
