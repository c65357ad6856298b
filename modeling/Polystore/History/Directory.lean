import Polystore.History.Log
import Polystore.Learning.Model

/-!
# The data directory

What is kept on disk between two runs: the execution log and the document of the
learned profiles.  The document is written as a whole, so it always is some
model's snapshot.
-/

namespace Polystore

/-- The place of the document of profiles. -/
inductive ProfileFile where
  | absent
  | text (content : String)
  /-- The place is taken by a directory that is not empty. -/
  | directory
deriving DecidableEq, Repr, Inhabited

namespace ProfileFile

/-- The saved profiles; where nothing was saved there are none. -/
def load : ProfileFile → Except Fault ProfileDocument
  | .absent => .ok []
  | .text content =>
    match (Written.ofText? content).bind ProfileDocument.decode with
    | some document => .ok document
    | none => .error (.document "not a profile document")
  | .directory => .error (.file "is a directory")

def save (document : ProfileDocument) : ProfileFile → Except Fault ProfileFile
  | .directory => .error (.file "is a directory")
  | _ => .ok (.text document.json.text)

def remove : ProfileFile → Except Fault ProfileFile
  | .directory => .error (.file "is a directory")
  | _ => .ok .absent

end ProfileFile

structure DataDirectory where
  log : LogFile
  profiles : ProfileFile
deriving DecidableEq, Repr, Inhabited

/-- A directory in which nothing has been kept yet. -/
def DataDirectory.fresh : DataDirectory := ⟨.absent, .absent⟩

end Polystore
