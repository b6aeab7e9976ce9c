import Bookmarklet.Preview.Markup
import Bookmarklet.Preview.Template
import Bookmarklet.Text.Replace

/-!
# Preview documents

The page that runs a script, and the frame that shows a page.
-/

namespace Bookmarklet.Preview

/-- The template with its policy and its channel. -/
def filledTemplate : List Char :=
  Text.replaceAll channelMark.toList channel.toList
    (Text.replaceAll policyMark.toList contentSecurityPolicy.toList template.toList)

/-- The page that runs a script, which is filled in last. -/
def document (source : String) : String :=
  String.ofList (Text.replaceFirst sourceMark.toList (escapeScriptClose source.toList) filledTemplate)

/-- What a frame allows its page. -/
def sandboxFlags : String := "allow-scripts"

/-- The frame that shows a page. -/
def frame (page : String) : String :=
  "<iframe title=\"Bookmarklet preview\" sandbox=\"" ++ sandboxFlags ++ "\" srcdoc=\""
    ++ String.ofList (escapeAttribute page.toList) ++ "\"></iframe>"

end Bookmarklet.Preview
