import Bookmarklet.Preview.Bridge
import Bookmarklet.Preview.Document

/-!
# Preview sessions

A session shows one page at a time. Each page that is loaded runs in a realm of its own, which becomes the only one
that is heard, so what an earlier page still posts is lost.
-/

namespace Bookmarklet.Preview

/-- A page that is shown. -/
structure Page where
  realm : Realm
  document : String

/-- The frame that shows a page. -/
def Page.frame (p : Page) : String := Preview.frame p.document

/-- A session. -/
structure Session where
  bridge : Bridge
  /-- Whether the log is cleared for each page. -/
  clearOnReload : Bool
  current : Option Page
  /-- The next realm. -/
  nextRealm : Realm

namespace Session

/-- A session without a page. -/
def start (log : Log) (clearOnReload : Bool) : Session := ⟨⟨none, log⟩, clearOnReload, none, 0⟩

/-- A realm that no page has had. -/
def mint (s : Session) : Realm × Session := (s.nextRealm, { s with nextRealm := s.nextRealm + 1 })

/-- Changes the bridge. -/
def mapBridge (s : Session) (f : Bridge → Bridge) : Session := { s with bridge := f s.bridge }

/-- The log of a session. -/
def log (s : Session) : Log := s.bridge.log

/-- Shows the page that runs a script, in a new realm. -/
def load (s : Session) (source : String) : Page × Session :=
  let (realm, s) := s.mint
  let page : Page := ⟨realm, document source⟩
  let bridge := s.bridge.attach realm
  let bridge := if s.clearOnReload then { bridge with log := bridge.log.clear } else bridge
  (page, { s with bridge, current := some page })

/-- Removes the page. -/
def teardown (s : Session) : Session := { s with bridge := s.bridge.detach, current := none }

end Session
end Bookmarklet.Preview
