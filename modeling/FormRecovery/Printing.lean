import FormRecovery.Form
import FormRecovery.Layout.Document

/-!
The texts of kinds, types and forms. Arguments follow their function after a space or a
break; in argument position an application stands in parentheses, and in parameter
position a function kind does.
-/
namespace FormRecovery

open Layout (Document)

/-- Where a part stands: by itself, or where compound text needs parentheses. -/
inductive Place where
  | free
  | argument
  deriving DecidableEq

/-- A type written out in full. -/
inductive Tree where
  | named (name : String)
  | applied (function argument : Tree)
  deriving DecidableEq

/-- The type of an id, written out. Both sides of an application are earlier entries. -/
def Store.tree (s : Store) (id : TypeId) : Tree :=
  match s.shape? id with
  | some (.constructor name) => .named name
  | some (.application function argument) =>
    if function.index < id.index ∧ argument.index < id.index then
      .applied (s.tree function) (s.tree argument)
    else .named ""
  | none => .named ""
termination_by id.index

namespace Layout

def enclose : Place → Document → Document
  | .free, d => d
  | .argument, d => .parenthesized d

/-- A head with its arguments: one group, broken before every argument. The parentheses
stand outside the group. -/
def application (place : Place) (head : Document) (arguments : List Document) : Document :=
  if arguments.isEmpty then head
  else enclose place (.group (head ++ .nest 2 (.broken arguments)))

end Layout

namespace Kind

def document : Kind → Place → Document
  | proper, _ => .text "Type"
  | arrow parameter result, place =>
    Layout.enclose place (parameter.document .argument ++ (.text " -> " ++ result.document .free))

def print (width : Nat) (k : Kind) : String := (k.document .free).render width

end Kind

namespace Tree

def head : Tree → String
  | named name => name
  | applied function _ => function.head

def arguments : Tree → List Document
  | named _ => []
  | applied function argument =>
    function.arguments ++
      [Layout.application .argument (.text argument.head) argument.arguments]

def document (t : Tree) (place : Place) : Document :=
  Layout.application place (.text t.head) t.arguments

end Tree

/-- Holes are named by letters, from `a` again after `z`. -/
def holeName (h : Hole) : String := String.singleton (Char.ofNat ('a'.toNat + h % 26))

namespace Template

/-- The head of an application; a closed head is a group of its own. -/
def head (s : Store) : Template → Place → Document
  | fixed id, place => (s.tree id).document place
  | hole h, _ => .text (holeName h)
  | application function _, _ => function.head s .free

def arguments (s : Store) : Template → List Document
  | fixed _ => []
  | hole _ => []
  | application function argument =>
    function.arguments s ++
      [Layout.application .argument (argument.head s .argument) (argument.arguments s)]

def document (s : Store) (t : Template) (place : Place) : Document :=
  Layout.application place (t.head s place) (t.arguments s)

end Template

namespace Form

/-- The lambda and the names of the holes. -/
def binder (f : Form) : String :=
  "\\" ++ String.intercalate " " ((List.range f.arity).map holeName) ++ " ->"

def document (s : Store) (f : Form) : Document :=
  .group (.text f.binder ++ .nest 2 (.line ++ f.body.document s .free))

def print (s : Store) (width : Nat) (f : Form) : String := (f.document s).render width

end Form

def Store.print (s : Store) (width : Nat) (id : TypeId) : String :=
  ((s.tree id).document .free).render width

/-- The width used where none is asked for. -/
def defaultWidth : Nat := 100

end FormRecovery
