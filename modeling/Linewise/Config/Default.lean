/-
The settings in force when no document says otherwise.
-/
import Linewise.Config.Basic

namespace Linewise

/-- four columns, `end` after a block, and the marks of the input language -/
def Layout.standard : Layout where
  indentWidth := 4
  terminator := "end"
  commentPrefix := "#"
  continuationMarker := "\\"
  blockOpener := ":"
  blockStringDelimiters := ["'''", "\"\"\""]
  continuationKeywords := ["else", "elif", "except", "finally"]

namespace Tables

/-- `is not` comes before `is`, which would match in it; `end` is a name in the input and reserved in the output -/
def standardReservedWords : List (Text × Text) :=
  [("None", "nil"), ("True", "true"), ("False", "false"), ("elif", "elsif"), ("\\s*is\\s+not", ".not_equal?"),
    ("\\s*is", ".equal?"), ("end", "end_")]

def standardMethods : List (Text × Text) :=
  [("len", "length"), ("str", "to_s"), ("int", "to_i"), ("float", "to_f"), ("repr", "inspect"), ("sorted", "sort")]

def standardFunctions : List (Text × Text) := [("open", "File.open")]

def standardSpecialMethods : List (Text × Text) :=
  [("__init__", "initialize"), ("__eq__", "=="), ("__ne__", "!="), ("__lt__", "<"), ("__le__", "<="),
    ("__gt__", ">"), ("__ge__", ">="), ("__add__", "+"), ("__sub__", "-"), ("__mul__", "*"), ("__str__", "to_s"),
    ("__repr__", "inspect"), ("__len__", "length"), ("__hash__", "hash"), ("__call__", "call"),
    ("__iter__", "each"), ("__contains__", "include?"), ("__getitem__", "[]"), ("__setitem__", "[]=")]

/-- the tables in force when no document says otherwise -/
def standard : Tables where
  reservedWords := .ofList standardReservedWords
  functionsToMethods := .ofList standardMethods
  functionsToFunctions := .ofList standardFunctions
  specialMethods := .ofList standardSpecialMethods

end Tables

end Linewise
