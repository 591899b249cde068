import Reckoner.Proofs.Loading

namespace Reckoner

namespace Archive

-- The member is the first one that is called a text.
structure Leads (front : List Member) (first : Member) : Prop where
  front : ∀ member ∈ front, member.isText = false
  text : first.isText = true

variable {members front back : List Member} {first latest : Member}

theorem Prevails.mem {name : String} (hlatest : Prevails members latest name) :
    latest ∈ members := by
  obtain ⟨-, before, after, rfl, -⟩ := hlatest
  simp

theorem Prevails.eq_of_unrepeated (hlatest : Prevails (first :: back) latest first.name)
    (hback : ∀ other ∈ back, other.name ≠ first.name) : latest = first := by
  rcases List.mem_cons.mp hlatest.mem with rfl | hmem
  · rfl
  · exact absurd hlatest.named (hback latest hmem)

theorem isText_of_name_eq {one other : Member} (hname : one.name = other.name) :
    one.isText = other.isText := by
  simp [Member.isText, hname]

theorem candidate_zip_iff {member : Member} : Candidate .zip member ↔ member.isText = true := by
  rw [← isCandidate_iff]
  rfl

theorem Leads.isFirst {bytes : List UInt8} (hleads : Leads front first) :
    First ⟨.zip, bytes, front ++ first :: back⟩ first :=
  ⟨candidate_zip_iff.mpr hleads.text, front, back, rfl, fun member hmember => by
    rw [candidate_zip_iff, hleads.front member hmember]
    decide⟩

-- Either there is a first text, or there is none at all.
theorem exists_leads_or (members : List Member) :
    (∃ front first back, members = front ++ first :: back ∧ Leads front first) ∨
      ∀ member ∈ members, member.isText = false := by
  cases hfind : members.find? Member.isText with
  | none => exact .inr (by simpa [List.find?_eq_none] using hfind)
  | some first =>
      obtain ⟨htext, front, back, hmembers, hfront⟩ := List.find?_eq_some_iff_append.mp hfind
      exact .inl ⟨front, first, back, hmembers, by simpa using hfront, htext⟩

end Archive

namespace Batch

open Archive

-- A zip archive in front of a run, with its members. A member that is called a text
-- has one, and the members can be extracted.
structure Zipped (files : FileTree) (batch : Batch) (members : List Member) : Prop where
  name : Path.Names .zip batch.input.name
  content : ∃ bytes, files.content batch.input = .ok (.archive ⟨.zip, bytes, members⟩)
  texts : ∀ member ∈ members, member.isText = true →
    ∃ text : List Char, member.content = some (text.flatMap String.utf8EncodeChar)
  extracts : ∀ member ∈ members, files.host.extract member = .ok ()

section

variable {files : FileTree} {batch : Batch} {members front back : List Member}
  {first latest : Member} {text : List Char}

-- The member is found by its place, and read by its name.
theorem Zipped.load_of_leads (hzip : Zipped files batch (front ++ first :: back))
    (hleads : Leads front first) (hlatest : Prevails (first :: back) latest first.name)
    (htext : latest.content = some (text.flatMap String.utf8EncodeChar)) :
    batch.load files = .ok (expressionsOf text) := by
  obtain ⟨bytes, hcontent⟩ := hzip.content
  have hextracts := @Extracts.zip files.host ⟨.zip, bytes, front ++ first :: back⟩ first latest rfl
    hlatest.append
  rw [hzip.extracts latest (List.mem_append_right _ hlatest.mem), htext] at hextracts
  have hoffers : Offers files batch.input (text.flatMap String.utf8EncodeChar) :=
    .member ⟨hzip.name, hcontent⟩ hleads.isFirst hextracts (.extracted (.inl rfl) rfl)
  simp only [load, hcontent, hoffers.textAt_eq hcontent, textOf_eq_ok_iff.mpr rfl, Except.map]

theorem Zipped.load_of_none (hzip : Zipped files batch members)
    (hnone : ∀ member ∈ members, member.isText = false) :
    batch.load files = .error (.noTextMember .zip) := by
  obtain ⟨bytes, hcontent⟩ := hzip.content
  have hpacked : Packed files batch.input ⟨.zip, bytes, members⟩ := ⟨hzip.name, hcontent⟩
  have hfirst : Archive.first? ⟨.zip, bytes, members⟩ = none :=
    Archive.first?_eq_none_iff.mpr fun member hmember => by
      rw [candidate_zip_iff, hnone member hmember]
      decide
  simp only [load, hcontent, hpacked.textAt_eq hcontent, textIn, hfirst, Except.map]

end

-- The expressions are the lines of the last member that is named like the first text.
-- So they are those of the first text, and what is behind it does not matter, if none
-- behind it has its name. Nothing but an archive without a text is refused.
theorem load_zip (files : FileTree) (batch : Batch) (members : List Member)
    (hzip : Zipped files batch members) :
    (∀ front first back, members = front ++ first :: back → Leads front first →
      ∃ (latest : Member) (text : List Char), Prevails (first :: back) latest first.name ∧
        latest.content = some (text.flatMap String.utf8EncodeChar) ∧
        batch.load files = .ok (expressionsOf text) ∧
        ((∀ other ∈ back, other.name ≠ first.name) →
          first.content = some (text.flatMap String.utf8EncodeChar))) ∧
    ((∃ error, batch.load files = .error error ∧
        error.message = "📄❌ No .txt file found in zip archive") ↔
      ∀ member ∈ members, member.isText = false) ∧
    ∀ error, batch.load files = .error error → error = .noTextMember .zip := by
  have hfirst : ∀ front first back, members = front ++ first :: back → Leads front first →
      ∃ (latest : Member) (text : List Char), Prevails (first :: back) latest first.name ∧
        latest.content = some (text.flatMap String.utf8EncodeChar) ∧
        batch.load files = .ok (expressionsOf text) := by
    rintro front first back rfl hleads
    obtain ⟨latest, hlatest⟩ := exists_prevails first back
    obtain ⟨text, htext⟩ := hzip.texts latest (List.mem_append_right _ hlatest.mem)
      ((isText_of_name_eq hlatest.named).trans hleads.text)
    exact ⟨latest, text, hlatest, htext, hzip.load_of_leads hleads hlatest htext⟩
  have herrors : ∀ error, batch.load files = .error error →
      (∀ member ∈ members, member.isText = false) ∧ error = .noTextMember .zip := by
    intro error herror
    rcases exists_leads_or members with ⟨front, first, back, hmembers, hleads⟩ | hnone
    · obtain ⟨latest, text, -, -, hread⟩ := hfirst front first back hmembers hleads
      rw [hread] at herror
      cases herror
    · rw [hzip.load_of_none hnone] at herror
      exact ⟨hnone, (Except.error.inj herror).symm⟩
  refine ⟨fun front first back hmembers hleads => ?_, ?_, fun error herror => (herrors error herror).2⟩
  · obtain ⟨latest, text, hlatest, htext, hread⟩ := hfirst front first back hmembers hleads
    refine ⟨latest, text, hlatest, htext, hread, fun hback => ?_⟩
    rwa [hlatest.eq_of_unrepeated hback] at htext
  · constructor
    · rintro ⟨error, herror, -⟩
      exact (herrors error herror).1
    · exact fun hnone => ⟨_, hzip.load_of_none hnone, by decide +kernel⟩

-- Another name, or a name twice behind the first text, does no harm.
theorem load_zip_unrepeated :
    let text := "1+1\r\n\n 2+2".toList
    let front : List Member := [⟨"docs/", none⟩, ⟨"notes.md", some [0xFF]⟩]
    let first : Member := ⟨"sums.txt", some (Text.Utf8.encode text)⟩
    let back : List Member := [⟨"b.txt", some (Text.Utf8.encode ['3'])⟩,
      ⟨"b.txt", some (Text.Utf8.encode ['4'])⟩]
    let archive : Archive := ⟨.zip, [0x50, 0x4B, 0x03, 0x04], front ++ first :: back⟩
    let files : FileTree := { entries := [(["ops.zip"], .file (.archive archive))] }
    let batch : Batch := ⟨⟨"", ["ops.zip"]⟩, ⟨"", ["results.txt"]⟩⟩
    Zipped files batch (front ++ first :: back) ∧ Leads front first ∧
      (∀ other ∈ back, other.name ≠ first.name) ∧ batch.load files = .ok ["1+1", "2+2"] := by
  intro text front first back archive files batch
  have htexts : ∀ member ∈ front ++ first :: back, member.isText = true →
      ∃ text : List Char, member.content = some (text.flatMap String.utf8EncodeChar) := by
    simp only [front, first, back, List.cons_append, List.nil_append, List.forall_mem_cons]
    exact ⟨fun hfolder => absurd hfolder (by decide +kernel),
      fun hnotes => absurd hnotes (by decide +kernel), fun _ => ⟨_, rfl⟩, fun _ => ⟨_, rfl⟩,
      fun _ => ⟨_, rfl⟩, List.forall_mem_nil _⟩
  have hzip : Zipped files batch (front ++ first :: back) :=
    ⟨.zip "ops".toList (by decide), ⟨_, rfl⟩, htexts, fun _ _ => rfl⟩
  have hleads : Leads front first := ⟨by decide +kernel, by decide +kernel⟩
  have hback : ∀ other ∈ back, other.name ≠ first.name := by decide +kernel
  obtain ⟨latest, read, -, -, hload, hcontent⟩ :=
    (load_zip files batch _ hzip).1 front first back rfl hleads
  have hread : textOf (Text.Utf8.encode text) = .ok read :=
    textOf_eq_ok_iff.mpr (Option.some.inj (hcontent hback)).symm
  obtain rfl := Except.ok.inj (hread.symm.trans (textOf_eq_ok_iff.mpr rfl))
  have hexpressions : expressionsOf text = ["1+1", "2+2"] := by decide +kernel
  rw [hexpressions] at hload
  exact ⟨hzip, hleads, hback, hload⟩

-- The name of the first text comes again, and the first text is not read.
theorem load_zip_repeated :
    let archive : Archive :=
      ⟨.zip, [0x50, 0x4B, 0x03, 0x04],
        [⟨"a.txt", some (Text.Utf8.encode "1+1".toList)⟩,
          ⟨"a.txt", some (Text.Utf8.encode "2+2".toList)⟩]⟩
    let files : FileTree := { entries := [(["ops.zip"], .file (.archive archive))] }
    let batch : Batch := ⟨⟨"", ["ops.zip"]⟩, ⟨"", ["out.txt"]⟩⟩
    batch.load files = .ok ["2+2"] ∧ batch.load files ≠ .ok (expressionsOf "1+1".toList) := by
  intro archive files batch
  exact ⟨by decide +kernel, by decide +kernel⟩

end Batch

end Reckoner
