import BusLocator.FileTree
import BusLocator.Locator.Report
import BusLocator.Template
/-!
# Sessions

A session is a locator in use: questions are put to it one after the other, and between them
directories and files come and go. Only the files change; the rest of the surroundings stays.
-/

namespace BusLocator

/-- A question to a locator, or the request to forget. -/
inductive Request where
  | isInstalled (verbose : Bool)
  | binaryDir
  | libraryDir
  | libraryFile
  | installation
  | resolution
  | descriptorPath
  | describe
  | fill (participant : Participant) (text : String)
  | invalidate
  deriving DecidableEq, Repr

inductive Change where
  | addDirectory (path : Path)
  | addFile (path : Path) (content : Bytes)
  | remove (path : Path)
  deriving DecidableEq, Repr

inductive SessionStep where
  | ask (request : Request)
  | alter (change : Change)
  deriving DecidableEq, Repr

inductive Reply where
  | nothing
  | flag (value : Bool)
  | path (value : Option Path)
  | installation (value : Option Installation)
  | resolution (value : Except NotFound Resolution)
  | text (value : String)
  deriving Repr

def FileTree.apply (tree : FileTree) : Change → FileTree
  | .addDirectory path => tree.addDirectory path
  | .addFile path content => tree.addFile path content
  | .remove path => tree.remove path

def Locator.answer (host : Host) (locator : Locator) : Request → Answered Reply
  | .isInstalled verbose => (locator.isInstalled host verbose).map .flag
  | .binaryDir => (locator.binaryDir host).map .path
  | .libraryDir => (locator.libraryDir host).map .path
  | .libraryFile => (locator.libraryFile host).map .path
  | .installation => (locator.installation host).map .installation
  | .resolution => (locator.resolution host).map .resolution
  | .descriptorPath => ⟨.path (some (locator.descriptorPath host)), locator, []⟩
  | .describe => ⟨.text locator.describe, locator, []⟩
  | .fill participant text => (locator.fill host participant text).map .text
  | .invalidate => ⟨.nothing, locator.invalidate, []⟩

/-- A locator and the files it works on. -/
structure Session where
  locator : Locator
  tree : FileTree
  deriving Repr

namespace Session

/-- One step: the reply, what was said, and the session after it. The files of the host are those of
the session. -/
def step (host : Host) (session : Session) : SessionStep → (Reply × List Diagnostic) × Session
  | .ask request =>
    let host := { host with files := session.tree.asWritten }
    let answered := session.locator.answer host request
    ((answered.answer, answered.said), { session with locator := answered.locator })
  | .alter change => ((.nothing, []), { session with tree := session.tree.apply change })

/-- A run of steps: what each of them gave, and the session at the end. -/
def run (host : Host) (session : Session) :
    List SessionStep → List (Reply × List Diagnostic) × Session
  | [] => ([], session)
  | s :: steps =>
    let (given, next) := session.step host s
    let (rest, last) := next.run host steps
    (given :: rest, last)

end Session

end BusLocator
