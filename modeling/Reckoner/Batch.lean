import Reckoner.Form.File
import Reckoner.Outcome
import Reckoner.Text.Lines

namespace Reckoner

-- An input file and the file for its results.
structure Batch where
  input : Path
  output : Path
  deriving DecidableEq, Repr

namespace Batch

-- An error of the system is told by what it says.
inductive LoadError
  | file (path : Path) (error : FileError)
  | malformedText (fault : Text.Utf8.Malformed)
  | unsupportedFormat (suffix : String)
  | notArchive (format : Archive.Format)
  | noTextMember (format : Archive.Format)
  | outside (member : String) (target : String)
  | system (message : String)
  deriving DecidableEq, Repr

def LoadError.message : LoadError → String
  | .file path error => error.message path
  | .malformedText fault => fault.message
  | .unsupportedFormat suffix => "📄❌ Unsupported archive format: " ++ suffix
  | .notArchive format => "File is not a " ++ format.label ++ " archive"
  | .noTextMember format => "📄❌ No .txt file found in " ++ format.label ++ " archive"
  | .outside member target =>
      "📄❌ Unsafe member in tar.xz archive: " ++ Text.quoted member ++
        " would be extracted to " ++ Text.quoted target ++ ", which is outside the destination"
  | .system message => message

-- What the library for an archive says of a file that is none is not handled.
def LoadError.isHandled : LoadError → Bool
  | .notArchive _ => false
  | _ => true

def textOf (bytes : List UInt8) : Except LoadError (List Char) :=
  (Text.Utf8.decode bytes).mapError .malformedText

-- Where the data filter for tar archives would have a member: slashes at the start of
-- its name do not count, but two dots still lead to the folder above.
def target (host : Host) (name : String) : List String :=
  (Path.ofString name).parts.foldl FileTree.enter host.place

def extract (host : Host) (member : Archive.Member) : Except LoadError (Option (List UInt8)) :=
  ((host.extract member).map fun () => member.content).mapError .system

-- A zip archive is asked for a member by its name.
def extractFirst (host : Host) (archive : Archive) (first : Archive.Member) :
    Except LoadError (Option (List UInt8)) :=
  match archive.format with
  | .zip => extract host (Archive.latest archive.members first)
  | .tarXz =>
      if host.place.isPrefixOf (target host first.name) then extract host first
      else .error (.outside first.name (FileTree.nameOf (target host first.name)))
  | .sevenZip => (host.sevenZip archive.members first.name).mapError .system

-- Only a zip archive tells where it has put a member. For the others a name that begins
-- at the root leads to another file than the one that was extracted.
def readExtracted (files : FileTree) (format : Archive.Format) (name : String)
    (extracted : Option (List UInt8)) : Except LoadError (List UInt8) :=
  let path := files.host.path.join name
  if format = .zip || (Path.ofString name).root = "" then
    match extracted with
    | none => .error (.file path .isFolder)
    | some bytes => .ok bytes
  else match files.content path with
    | .error error => .error (.file path error)
    | .ok content => .ok content.raw

def textIn (files : FileTree) (archive : Archive) : Except LoadError (List Char) :=
  match archive.first? with
  | none => .error (.noTextMember archive.format)
  | some first =>
      ((extractFirst files.host archive first).bind
        (readExtracted files archive.format first.name)).bind textOf

-- The suffix decides how a file is read.
def textAt (files : FileTree) (path : Path) (content : FileContent) :
    Except LoadError (List Char) :=
  if Path.suffix path.name = ".txt".toList then textOf content.raw
  else match Archive.Format.ofSuffix? (Archive.suffixOf path) with
    | none => .error (.unsupportedFormat (Archive.suffixOf path))
    | some format =>
        match content with
        | .archive archive =>
            if archive.format = format then textIn files archive else .error (.notArchive format)
        | _ => .error (.notArchive format)

-- One expression a line; lines of blanks are none.
def expressionsOf (text : List Char) : List String :=
  (((Text.splitLines (Text.readNewlines text)).map Text.stripChars).filter (!·.isEmpty)).map
    String.ofList

def load (files : FileTree) (batch : Batch) : Except LoadError (List String) :=
  match files.content batch.input with
  | .error error => .error (.file batch.input error)
  | .ok content => (textAt files batch.input content).map expressionsOf

inductive Error
  | load (error : LoadError)
  | output (path : Path) (error : FileError)
  | write (message : String)
  deriving DecidableEq, Repr

def Error.message : Error → String
  | .load error => error.message
  | .output path error => error.message path
  | .write message => message

def Error.isHandled : Error → Bool
  | .load error => error.isHandled
  | _ => true

-- The files and the records are those at the end, also of a run that failed.
structure Run where
  result : Except Error (List Outcome)
  files : FileTree
  records : List Log.Record

def complaint (number : Nat) : Outcome → List Log.Record
  | .result _ _ => []
  | .failure expression _ message =>
      [⟨.error, "🧮❌ Line " ++ toString number ++ ": " ++ message ++ ": " ++
        Text.quoted expression⟩]

def opening (batch : Batch) (count : Nat) : Log.Record :=
  ⟨.info, "📄 Evaluating " ++ toString count ++ " expression(s) from " ++ batch.input.text⟩

def closing (batch : Batch) (failed : Nat) : Log.Record :=
  ⟨.info, "📄✅ Results written to " ++ batch.output.text ++ " (" ++ toString failed ++
    " error(s))"⟩

-- What a run has brought about since its file was opened. The result is an error if
-- the system refused a write.
structure Progress where
  result : Except String (List Outcome)
  files : FileTree
  records : List Log.Record

-- Every line is in the file before the next expression is looked at. Lines are
-- counted from one.
def writeFrom (place : List String) (files : FileTree) (number : Nat) : List String → Progress
  | [] => ⟨.ok [], files, []⟩
  | expression :: rest =>
      let outcome := evaluate expression
      let records := outcome.record :: complaint number outcome
      let line := outcome.line ++ "\n"
      match files.host.write number line with
      | some fault => ⟨.error fault.message, files.extend place fault.written, records⟩
      | none =>
          let later := writeFrom place (files.extend place line) (number + 1) rest
          ⟨later.result.map (outcome :: ·), later.files, records ++ later.records⟩

-- All that can fail comes before the first result is written, but for the writing.
def run (files : FileTree) (batch : Batch) : Run :=
  match load files batch with
  | .error error => ⟨.error (.load error), files, []⟩
  | .ok expressions =>
      let start := opening batch expressions.length
      match files.writable batch.output with
      | .error error => ⟨.error (.output batch.output error), files, [start]⟩
      | .ok place =>
          let progress := writeFrom place (files.clear place) 1 expressions
          match progress.result with
          | .error message => ⟨.error (.write message), progress.files, start :: progress.records⟩
          | .ok outcomes =>
              ⟨.ok outcomes, progress.files, start :: progress.records ++
                [closing batch (outcomes.countP Outcome.isFailure)]⟩

def ofForm (files : FileTree) (form : Form) : Except Refusal Batch :=
  form.lookingUp files "input_file"
    (Checked.apply (.ok Batch.mk) (form.required "input_file" (Field.asFile files))
      |>.apply (form.required "output_file" Field.asPath))

end Batch

end Reckoner
