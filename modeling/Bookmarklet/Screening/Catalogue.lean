import Bookmarklet.Screening.Signature

/-!
# What to look for in scripts

The risks that authors are advised of (`risks`), and what generated code must not contain (`bans`).
-/

namespace Bookmarklet.Screening

open Signature

/-- A risk: what to look for, and the advice if it is found. -/
structure Risk where
  advice : String
  signature : Signature

/-- The risks, in the order in which they are reported. -/
def risks : List Risk :=
  [⟨"Avoid eval() in bookmarklets.", .edge :: exactly "eval" ++ [.blanks, .exact '(']⟩,
   ⟨"Avoid new Function() in bookmarklets.",
     .edge :: exactly "new" ++ [.blank, .blanks] ++ exactly "Function" ++ [.blanks, .exact '(']⟩,
   ⟨"Accessing document.cookie may be unsafe.", .edge :: exactly "document.cookie" ++ [.edge]⟩,
   ⟨"Network requests are discouraged (fetch).", .edge :: exactly "fetch" ++ [.blanks, .exact '(']⟩,
   ⟨"Network requests are discouraged (XMLHttpRequest).", .edge :: exactly "XMLHttpRequest" ++ [.edge]⟩,
   ⟨"Use of document.write can be unsafe.", .edge :: exactly "document.write" ++ [.edge]⟩,
   ⟨"Direct localStorage access may leak data.", .edge :: exactly "localStorage" ++ [.edge]⟩,
   ⟨"Direct sessionStorage access may leak data.", .edge :: exactly "sessionStorage" ++ [.edge]⟩]

/-- What generated code must not contain, in any case. -/
def bans : List Signature :=
  [.edge :: inAnyCase "eval" ++ [.edge],
   .edge :: inAnyCase "new" ++ [.blank, .blanks] ++ inAnyCase "function" ++ [.edge],
   .edge :: inAnyCase "fetch" ++ [.edge],
   .edge :: inAnyCase "xmlhttprequest" ++ [.edge]]

/-- Whether a text contains something banned. -/
def isBanned (text : List Char) : Bool := bans.any (·.occursIn text)

end Bookmarklet.Screening
