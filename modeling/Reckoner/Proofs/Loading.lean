import Reckoner.Batch
import Reckoner.Proofs.FileTree
import Reckoner.Proofs.Names
import Reckoner.Proofs.Text.Utf8

namespace Reckoner

inductive FileContent.Holds : FileContent → List UInt8 → Prop
  | text (value : String) : Holds (.text value) (value.toList.flatMap String.utf8EncodeChar)
  | bytes (value : List UInt8) : Holds (.bytes value) value
  | archive (packed : Archive) : Holds (.archive packed) packed.bytes

theorem FileContent.holds_iff {content : FileContent} {bytes : List UInt8} :
    content.Holds bytes ↔ content.raw = bytes := by
  constructor
  · rintro ⟨⟩ <;> rfl
  · rintro rfl
    cases content with
    | text value => exact .text value
    | bytes value => exact .bytes value
    | archive packed => exact .archive packed

theorem Path.root_ofString_eq_iff {name : String} :
    (ofString name).root = "" ↔ name.toList.head? ≠ some '/' := by
  show rootOf name.toList = "" ↔ name.toList.head? ≠ some '/'
  cases name.toList with
  | nil => decide
  | cons c rest =>
      by_cases hc : c = '/'
      · subst hc
        have hroot : rootOf ('/' :: rest) ≠ "" := by
          unfold rootOf
          split <;> simp_all
          split <;> decide
        simpa using hroot
      · have hroot : rootOf (c :: rest) = "" := by
          unfold rootOf
          split <;> simp_all
        simpa [hroot] using hc

namespace Archive

-- A member that may be read: it is called a text, and in a tar archive it is a file.
def Candidate : Format → Member → Prop
  | .tarXz, member => member.content ≠ none ∧ ".txt".toList <:+ member.name.toList
  | _, member => ".txt".toList <:+ member.name.toList

structure First (archive : Archive) (first : Member) : Prop where
  candidate : Candidate archive.format first
  split : ∃ front back, archive.members = front ++ first :: back ∧
    ∀ member ∈ front, ¬Candidate archive.format member

-- The member is the last one of its name.
structure Prevails (members : List Member) (latest : Member) (name : String) : Prop where
  named : latest.name = name
  last : ∃ before after, members = before ++ latest :: after ∧ ∀ other ∈ after, other.name ≠ name

variable {archive : Archive} {members : List Member} {member first : Member} {format : Format}

theorem isCandidate_iff : member.isCandidate format ↔ Candidate format member := by
  cases format <;>
    simp [Member.isCandidate, Candidate, Member.isText, Option.isSome_iff_ne_none]

theorem isCandidate_eq_false_iff : member.isCandidate format = false ↔ ¬Candidate format member := by
  rw [← isCandidate_iff, Bool.not_eq_true]

theorem first?_eq_some_iff : archive.first? = some first ↔ First archive first := by
  rw [first?, List.find?_eq_some_iff_append, isCandidate_iff]
  simp only [Bool.not_eq_true', isCandidate_eq_false_iff]
  exact ⟨fun ⟨hcandidate, hsplit⟩ => ⟨hcandidate, hsplit⟩,
    fun ⟨hcandidate, hsplit⟩ => ⟨hcandidate, hsplit⟩⟩

theorem first?_eq_none_iff :
    archive.first? = none ↔ ∀ member ∈ archive.members, ¬Candidate archive.format member := by
  simp [first?, isCandidate_iff]

theorem First.mem (hfirst : First archive first) : first ∈ archive.members := by
  obtain ⟨-, front, back, hmembers, -⟩ := hfirst
  simp [hmembers]

theorem Prevails.latest_eq {latest : Member} (hlatest : Prevails members latest member.name) :
    Archive.latest members member = latest := by
  obtain ⟨hname, before, after, rfl, hafter⟩ := hlatest
  have hnone : after.reverse.find? (·.name == member.name) = none := by
    simpa [List.find?_eq_none] using hafter
  simp [Archive.latest, hnone, hname]

-- The last member of the name of one that is followed by others is among these.
theorem exists_prevails (member : Member) (rest : List Member) :
    ∃ latest, Prevails (member :: rest) latest member.name := by
  by_cases hrest : ∃ other ∈ rest, other.name = member.name
  · obtain ⟨latest, hlast⟩ : ∃ latest, rest.reverse.find? (·.name == member.name) = some latest := by
      rw [← Option.isSome_iff_exists, List.find?_isSome]
      simpa using hrest
    obtain ⟨hname, after, before, hreverse, hafter⟩ := List.find?_eq_some_iff_append.mp hlast
    refine ⟨latest, by simpa using hname, member :: before.reverse, after.reverse, ?_, ?_⟩
    · rw [List.cons_append, ← List.reverse_reverse rest, hreverse]
      simp
    · simpa using hafter
  · refine ⟨member, rfl, [], rest, rfl, fun other hother hname => hrest ⟨other, hother, hname⟩⟩

theorem Prevails.append {front : List Member} {latest : Member} {name : String}
    (hlatest : Prevails members latest name) : Prevails (front ++ members) latest name := by
  obtain ⟨hname, before, after, rfl, hafter⟩ := hlatest
  exact ⟨hname, front ++ before, after, by simp, hafter⟩

theorem First.exists_prevails (hfirst : First archive first) :
    ∃ latest, Prevails archive.members latest first.name := by
  obtain ⟨-, front, back, hmembers, -⟩ := hfirst
  obtain ⟨latest, hlatest⟩ := Archive.exists_prevails first back
  exact ⟨latest, hmembers ▸ hlatest.append⟩

end Archive

namespace Batch

open Archive (Candidate First Prevails)
open Reckoner.Path (NamesText Names)

-- The name leads into the temporary folder, also if slashes at its start are left out.
def Inside (host : Host) (name : String) : Prop :=
  "/" :: host.folder <+: (Path.ofString name).parts.foldl FileTree.enter ("/" :: host.folder)

-- What comes of extracting the first text of an archive: the content that stands under
-- its name then, or what the system says.
inductive Extracts (host : Host) (archive : Archive) (first : Archive.Member) :
    Except String (Option (List UInt8)) → Prop
  | zip {latest : Archive.Member} (hformat : archive.format = .zip)
      (hlatest : Prevails archive.members latest first.name) :
      Extracts host archive first ((host.extract latest).map fun () => latest.content)
  | tarXz (hformat : archive.format = .tarXz) (hinside : Inside host first.name) :
      Extracts host archive first ((host.extract first).map fun () => first.content)
  | sevenZip {other : Archive.Member} (hformat : archive.format = .sevenZip)
      (hother : other ∈ archive.members) (hname : other.name = first.name)
      (hextract : host.sevenZip archive.members first.name = .ok other.content) :
      Extracts host archive first (.ok other.content)
  | sevenZipFault {message : String} (hformat : archive.format = .sevenZip)
      (hextract : host.sevenZip archive.members first.name = .error message) :
      Extracts host archive first (.error message)

-- What is read then. But for a zip archive, a name that begins with a slash is that of
-- another file.
inductive ReadsBack (files : FileTree) (format : Archive.Format) (name : String)
    (extracted : Option (List UInt8)) : List UInt8 → Prop
  | extracted {bytes : List UInt8} (hname : format = .zip ∨ name.toList.head? ≠ some '/')
      (hextracted : extracted = some bytes) : ReadsBack files format name extracted bytes
  | elsewhere {content : FileContent} {bytes : List UInt8} (hformat : format ≠ .zip)
      (hname : name.toList.head? = some '/')
      (hcontent : files.content (Path.ofString name) = .ok content) (hbytes : content.Holds bytes) :
      ReadsBack files format name extracted bytes

-- An archive that is what its name says.
structure Packed (files : FileTree) (input : Path) (archive : Archive) : Prop where
  name : Names archive.format input.name
  content : files.content input = .ok (.archive archive)

-- The bytes of the text that an input has.
inductive Offers (files : FileTree) (input : Path) : List UInt8 → Prop
  | text {content : FileContent} {bytes : List UInt8} (hname : NamesText input.name)
      (hcontent : files.content input = .ok content) (hbytes : content.Holds bytes) :
      Offers files input bytes
  | member {archive : Archive} {first : Archive.Member} {extracted : Option (List UInt8)}
      {bytes : List UInt8} (hpacked : Packed files input archive) (hfirst : First archive first)
      (hextracts : Extracts files.host archive first (.ok extracted))
      (hread : ReadsBack files archive.format first.name extracted bytes) :
      Offers files input bytes

-- What keeps an input from being read: its suffix is none that is known, there is no
-- text in the archive, the text cannot be extracted or would be put outside the temporary
-- folder, there is no file to be read then, or what is read is no text.
inductive Unreadable (files : FileTree) (input : Path) : Prop
  | format (htext : ¬NamesText input.name) (hformat : ∀ format, ¬Names format input.name)
  | noText {archive : Archive} (hpacked : Packed files input archive)
      (hnone : ∀ member ∈ archive.members, ¬Candidate archive.format member)
  | outside {archive : Archive} {first : Archive.Member} (hpacked : Packed files input archive)
      (hfirst : First archive first) (hformat : archive.format = .tarXz)
      (houtside : ¬Inside files.host first.name)
  | extraction {archive : Archive} {first : Archive.Member} {message : String}
      (hpacked : Packed files input archive) (hfirst : First archive first)
      (hfault : Extracts files.host archive first (.error message))
  | noFile {archive : Archive} {first : Archive.Member} {extracted : Option (List UInt8)}
      (hpacked : Packed files input archive) (hfirst : First archive first)
      (hextracts : Extracts files.host archive first (.ok extracted))
      (hnone : ∀ bytes, ¬ReadsBack files archive.format first.name extracted bytes)
  | encoding {bytes : List UInt8} (hoffers : Offers files input bytes)
      (hmalformed : ∀ text : List Char, text.flatMap String.utf8EncodeChar ≠ bytes)

-- What is called an archive is one.
def Intact (files : FileTree) (input : Path) : Prop :=
  ∀ format, Names format input.name → ∃ archive : Archive, archive.format = format ∧
    files.content input = .ok (.archive archive)

section

variable {files : FileTree} {host : Host} {archive : Archive} {first : Archive.Member}
  {input : Path} {bytes : List UInt8}

theorem textOf_eq_ok_iff {text : List Char} :
    textOf bytes = .ok text ↔ text.flatMap String.utf8EncodeChar = bytes := by
  have hdecode : Text.Utf8.decode bytes = .ok text ↔ text.flatMap String.utf8EncodeChar = bytes :=
    Text.Utf8.decode_eq_ok_iff.trans eq_comm
  rw [← hdecode, textOf]
  cases Text.Utf8.decode bytes <;> simp [Except.mapError]

theorem exists_malformed
    (hmalformed : ∀ text : List Char, text.flatMap String.utf8EncodeChar ≠ bytes) :
    ∃ fault, textOf bytes = .error (.malformedText fault) := by
  cases hdecode : Text.Utf8.decode bytes with
  | error fault => exact ⟨fault, by simp [textOf, hdecode, Except.mapError]⟩
  | ok text =>
      have htextOf : textOf bytes = .ok text := by simp [textOf, hdecode, Except.mapError]
      exact absurd (textOf_eq_ok_iff.mp htextOf) (hmalformed text)

theorem isPrefixOf_target_iff {name : String} :
    host.place.isPrefixOf (target host name) ↔ Inside host name := by
  rw [List.isPrefixOf_iff_prefix]
  rfl

theorem extractFirst_of_extracts {result : Except String (Option (List UInt8))}
    (hextracts : Extracts host archive first result) :
    extractFirst host archive first = result.mapError .system := by
  cases hextracts with
  | zip hformat hlatest => simp only [extractFirst, hformat, hlatest.latest_eq, extract]
  | tarXz hformat hinside =>
      simp only [extractFirst, hformat, isPrefixOf_target_iff.mpr hinside, if_true, extract]
  | sevenZip hformat _ _ hextract | sevenZipFault hformat hextract =>
      simp only [extractFirst, hformat, hextract]

theorem extractFirst_of_outside (hformat : archive.format = .tarXz)
    (houtside : ¬Inside host first.name) :
    extractFirst host archive first =
      .error (.outside first.name (FileTree.nameOf (target host first.name))) := by
  rw [← isPrefixOf_target_iff] at houtside
  simp only [extractFirst, hformat, if_neg houtside]

theorem exists_extracts (hunpacks : host.Unpacks) (hfirst : First archive first) :
    (∃ result, Extracts host archive first result) ∨
      archive.format = .tarXz ∧ ¬Inside host first.name := by
  cases hformat : archive.format with
  | zip =>
      obtain ⟨latest, hlatest⟩ := hfirst.exists_prevails
      exact .inl ⟨_, .zip hformat hlatest⟩
  | tarXz =>
      by_cases hinside : Inside host first.name
      · exact .inl ⟨_, .tarXz hformat hinside⟩
      · exact .inr ⟨rfl, hinside⟩
  | sevenZip =>
      cases hextract : host.sevenZip archive.members first.name with
      | error message => exact .inl ⟨_, .sevenZipFault hformat hextract⟩
      | ok content =>
          obtain ⟨other, hother, hname, rfl⟩ := hunpacks _ _ hfirst.mem _ hextract
          exact .inl ⟨_, .sevenZip hformat hother hname hextract⟩

section

variable {format : Archive.Format} {name : String} {extracted : Option (List UInt8)}

theorem readExtracted_of_inside (hname : format = .zip ∨ name.toList.head? ≠ some '/') :
    readExtracted files format name extracted =
      match extracted with
      | none => .error (.file (files.host.path.join name) .isFolder)
      | some bytes => .ok bytes := by
  have hinside : (decide (format = .zip) || decide ((Path.ofString name).root = "")) = true := by
    simpa only [Bool.or_eq_true, decide_eq_true_eq, Path.root_ofString_eq_iff] using hname
  unfold readExtracted
  cases extracted <;> exact if_pos hinside

theorem readExtracted_of_elsewhere (hformat : format ≠ .zip) (hname : name.toList.head? = some '/') :
    readExtracted files format name extracted =
      match files.content (Path.ofString name) with
      | .error error => .error (.file (Path.ofString name) error)
      | .ok content => .ok content.raw := by
  have hroot : (Path.ofString name).root ≠ "" := fun hroot =>
    Path.root_ofString_eq_iff.mp hroot hname
  have hjoin : files.host.path.join name = Path.ofString name := by
    simp only [Path.join, if_neg hroot]
  have helsewhere : ¬(decide (format = .zip) || decide ((Path.ofString name).root = "")) = true := by
    simp [hformat, hroot]
  unfold readExtracted
  simp only [hjoin]
  cases files.content (Path.ofString name) <;> exact if_neg helsewhere

theorem readExtracted_eq_ok_iff :
    readExtracted files format name extracted = .ok bytes ↔
      ReadsBack files format name extracted bytes := by
  constructor
  · intro hread
    by_cases hname : format = .zip ∨ name.toList.head? ≠ some '/'
    · rw [readExtracted_of_inside hname] at hread
      cases extracted with
      | none => cases hread
      | some bytes =>
          obtain rfl := Except.ok.inj hread
          exact .extracted hname rfl
    · rw [not_or, not_not] at hname
      rw [readExtracted_of_elsewhere hname.1 hname.2] at hread
      split at hread
      · cases hread
      · rename_i content hcontent
        exact .elsewhere hname.1 hname.2 hcontent (FileContent.holds_iff.mpr (Except.ok.inj hread))
  · intro hread
    cases hread with
    | extracted hname hextracted => rw [readExtracted_of_inside hname, hextracted]
    | elsewhere hformat hname hcontent hbytes =>
        rw [readExtracted_of_elsewhere hformat hname, hcontent, ← FileContent.holds_iff.mp hbytes]

theorem isHandled_of_readExtracted {error : LoadError}
    (herror : readExtracted files format name extracted = .error error) : error.isHandled := by
  simp only [readExtracted] at herror
  split at herror
  · split at herror
    · obtain rfl := Except.error.inj herror
      rfl
    · cases herror
  · split at herror
    · obtain rfl := Except.error.inj herror
      rfl
    · cases herror

end

section

variable {content : FileContent} (hcontent : files.content input = .ok content)

include hcontent

theorem Packed.textAt_eq (hpacked : Packed files input archive) :
    textAt files input content = textIn files archive := by
  obtain rfl := Except.ok.inj (hpacked.content.symm.trans hcontent)
  have htext : Path.suffix input.name ≠ ".txt".toList := fun hsuffix =>
    hpacked.name.not_namesText (Path.namesText_iff.mp hsuffix)
  simp only [textAt, if_neg htext, Path.names_iff.mpr hpacked.name, if_true]

theorem Packed.textAt_of_extracts {result : Except String (Option (List UInt8))}
    (hpacked : Packed files input archive) (hfirst : First archive first)
    (hextracts : Extracts files.host archive first result) :
    textAt files input content = ((result.mapError .system).bind
      (readExtracted files archive.format first.name)).bind textOf := by
  rw [hpacked.textAt_eq hcontent, textIn, Archive.first?_eq_some_iff.mpr hfirst]
  simp only [extractFirst_of_extracts hextracts]

-- The text is read from the bytes that are offered.
theorem Offers.textAt_eq (hoffers : Offers files input bytes) :
    textAt files input content = textOf bytes := by
  cases hoffers with
  | text hname hplain hbytes =>
      obtain rfl := Except.ok.inj (hplain.symm.trans hcontent)
      rw [textAt, if_pos (Path.namesText_iff.mpr hname), FileContent.holds_iff.mp hbytes]
  | member hpacked hfirst hextracts hread =>
      rw [hpacked.textAt_of_extracts hcontent hfirst hextracts]
      simp only [Except.mapError, Except.bind, readExtracted_eq_ok_iff.mpr hread]

-- Every obstacle has its error, and this error is handled.
theorem Unreadable.exists_error (hunreadable : Unreadable files input) :
    ∃ error, textAt files input content = .error error ∧ error.isHandled := by
  cases hunreadable with
  | format htext hformat =>
      have hnone : Archive.Format.ofSuffix? (Archive.suffixOf input) = none := by
        rw [Option.eq_none_iff_forall_ne_some]
        exact fun format hsome => hformat format (Path.names_iff.mp hsome)
      rw [textAt, if_neg (Path.namesText_iff.not.mpr htext), hnone]
      exact ⟨_, rfl, rfl⟩
  | noText hpacked hnone =>
      rw [hpacked.textAt_eq hcontent, textIn, Archive.first?_eq_none_iff.mpr hnone]
      exact ⟨_, rfl, rfl⟩
  | outside hpacked hfirst hformat houtside =>
      rw [hpacked.textAt_eq hcontent, textIn, Archive.first?_eq_some_iff.mpr hfirst]
      simp only [extractFirst_of_outside hformat houtside]
      exact ⟨_, rfl, rfl⟩
  | extraction hpacked hfirst hfault =>
      rw [hpacked.textAt_of_extracts hcontent hfirst hfault]
      exact ⟨_, rfl, rfl⟩
  | @noFile archive first extracted hpacked hfirst hextracts hnone =>
      rw [hpacked.textAt_of_extracts hcontent hfirst hextracts]
      simp only [Except.mapError, Except.bind]
      cases hread : readExtracted files archive.format first.name extracted with
      | error error => exact ⟨error, rfl, isHandled_of_readExtracted hread⟩
      | ok bytes => exact absurd (readExtracted_eq_ok_iff.mp hread) (hnone bytes)
  | encoding hoffers hmalformed =>
      obtain ⟨fault, hfault⟩ := exists_malformed hmalformed
      exact ⟨_, (hoffers.textAt_eq hcontent).trans hfault, rfl⟩

-- There are bytes to be read, or something keeps them from being read.
theorem offers_or_unreadable (hunpacks : files.host.Unpacks) (hintact : Intact files input) :
    (∃ bytes, Offers files input bytes) ∨ Unreadable files input := by
  by_cases htext : NamesText input.name
  · exact .inl ⟨_, .text htext hcontent (FileContent.holds_iff.mpr rfl)⟩
  by_cases hnames : ∃ format, Names format input.name
  · obtain ⟨format, hnames⟩ := hnames
    obtain ⟨archive, rfl, harchive⟩ := hintact format hnames
    have hpacked : Packed files input archive := ⟨hnames, harchive⟩
    cases hfirst : archive.first? with
    | none => exact .inr (.noText hpacked (Archive.first?_eq_none_iff.mp hfirst))
    | some first =>
        rw [Archive.first?_eq_some_iff] at hfirst
        rcases exists_extracts hunpacks hfirst with ⟨result, hextracts⟩ | ⟨hformat, houtside⟩
        · cases result with
          | error message => exact .inr (.extraction hpacked hfirst hextracts)
          | ok extracted =>
              by_cases hread : ∃ bytes, ReadsBack files archive.format first.name extracted bytes
              · obtain ⟨bytes, hread⟩ := hread
                exact .inl ⟨bytes, .member hpacked hfirst hextracts hread⟩
              · exact .inr (.noFile hpacked hfirst hextracts (not_exists.mp hread))
        · exact .inr (.outside hpacked hfirst hformat houtside)
  · exact .inr (.format htext (not_exists.mp hnames))

theorem textAt_cases (hunpacks : files.host.Unpacks) (hintact : Intact files input) :
    (Unreadable files input ∧
        ∃ error, textAt files input content = .error error ∧ error.isHandled) ∨
      ¬Unreadable files input ∧ ∃ text, Offers files input (text.flatMap String.utf8EncodeChar) ∧
        textAt files input content = .ok text := by
  by_cases hunreadable : Unreadable files input
  · exact .inl ⟨hunreadable, hunreadable.exists_error hcontent⟩
  · refine .inr ⟨hunreadable, ?_⟩
    rcases offers_or_unreadable hcontent hunpacks hintact with ⟨bytes, hoffers⟩ | hother
    · by_cases htext : ∃ text : List Char, text.flatMap String.utf8EncodeChar = bytes
      · obtain ⟨text, rfl⟩ := htext
        exact ⟨text, hoffers, (hoffers.textAt_eq hcontent).trans (textOf_eq_ok_iff.mpr rfl)⟩
      · exact absurd (.encoding hoffers (not_exists.mp htext)) hunreadable
    · exact absurd hother hunreadable

end

-- Loading fails where the input cannot be read, and only there. Otherwise the expressions
-- are those of the text that the bytes spell.
theorem load_cases {batch : Batch} (hunpacks : files.host.Unpacks)
    (hfile : files.isFile batch.input) (hintact : Intact files batch.input) :
    (Unreadable files batch.input ∧ ∃ error, batch.load files = .error error ∧ error.isHandled) ∨
      ¬Unreadable files batch.input ∧
        ∃ text, Offers files batch.input (text.flatMap String.utf8EncodeChar) ∧
          batch.load files = .ok (expressionsOf text) := by
  obtain ⟨content, hcontent⟩ := FileTree.exists_content_of_isFile hfile
  have hload : batch.load files = (textAt files batch.input content).map expressionsOf := by
    simp only [load, hcontent]
  rcases textAt_cases hcontent hunpacks hintact with
    ⟨hunreadable, error, herror, hhandled⟩ | ⟨hreadable, text, hoffers, htext⟩
  · exact .inl ⟨hunreadable, error, by rw [hload, herror]; rfl, hhandled⟩
  · exact .inr ⟨hreadable, text, hoffers, by rw [hload, htext]; rfl⟩

-- The name of the member begins at the root, and the file that has this name is read.
example :
    let archive : Archive := ⟨.tarXz, [], [⟨"/ops.txt", some (Text.Utf8.encode ['1'])⟩]⟩
    let files : FileTree :=
      { entries := [(["ops.tar.xz"], .file (.archive archive)),
          (["/", "ops.txt"], .file (.text "2"))] }
    load files ⟨⟨"", ["ops.tar.xz"]⟩, ⟨"", ["results.txt"]⟩⟩ = .ok ["2"] := by
  decide +kernel

end

end Batch

end Reckoner
