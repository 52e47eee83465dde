import Registrar.FileTree
import Registrar.Settings.Encoding

/- Settings files. A file is written under another name first and then moved, so that there is no
   time at which half of it can be read. -/
namespace Registrar.Settings

def spareExtension : String := "json.tmp"

/-- Writes the settings and says whether that went well. What was done up to a failure stays. -/
def save (s : Settings) (t : FileTree) (path : FilePath) : FileTree × Except Failure Unit :=
  let refused (t : FileTree) : FileTree × Except Failure Unit :=
    (t, .error (.files "the file cannot be written"))
  let (t, made) := t.makeDirectories path.parent
  if !made then refused t
  else
    let spare := path.withExtension spareExtension
    match t.write? spare s.fileText with
    | none => refused t
    | some t =>
      match t.rename? spare path with
      | none => refused t
      | some t => (t, .ok ())

def loadBytes : Option ByteArray → Except Failure Settings
  | none => .error (.files "the file cannot be read")
  | some bytes =>
    match String.fromUTF8? bytes with
    | none => .error (.files "the file is not text")
    | some text => load text.toList

def loadFrom (t : FileTree) (path : FilePath) : Except Failure Settings :=
  match t.read? path with
  | none => .error (.files "the file cannot be read")
  | some text => load text

end Registrar.Settings
