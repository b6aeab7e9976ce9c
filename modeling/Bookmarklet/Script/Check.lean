import Bookmarklet.Script.Early
import Bookmarklet.Script.Parse

/-!
# Checking a script

A script is accepted as a function body: it must conform to the grammar, hold no `import` or `export` at its top
level, and commit none of the offences of `Tree.violation?`. `check` gives the tree of an accepted script.
-/

namespace Bookmarklet.Script

namespace Tree

/-- The offence of module syntax at the top level. -/
def moduleViolation? (t : Tree) : Option SyntaxError :=
  t.children.findSome? fun child =>
    match child.kind with
    | .importStatement => some .importOutsideModule
    | .exportStatement => some .unexpectedExport
    | _ => none

/-- Why a parsed program is refused, if it is. -/
def refusal? (t : Tree) : Option SyntaxError :=
  if t.info.faulty then some (t.firstProblem?.getD .unexpectedEnd)
  else t.moduleViolation?.or t.programViolation?

end Tree

/-- The syntax tree of a script, or the first reason to refuse it. -/
def check (source : List Char) : Except SyntaxError Tree :=
  match parse source with
  | none => .error .parseFailed
  | some tree =>
    match tree.refusal? with
    | some error => .error error
    | none => .ok tree

end Bookmarklet.Script
