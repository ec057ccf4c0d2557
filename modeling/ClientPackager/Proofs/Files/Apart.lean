import ClientPackager.Proofs.Archive.FileNames
import ClientPackager.Proofs.Disk.Lead
import ClientPackager.Proofs.Disk.Place

set_option autoImplicit false

namespace ClientPackager.FileTree

open Archive (fileNames isWhole nameOf ofTree utf8)
open Disk (locate)
open Export (pathOf plain)

-- Two files of a tree are one file in an archive or on a disk if and only if their
-- paths are the same without single dots. In an archive, names that are too long for
-- a header keep their dots, and a NUL ends a name: long names that are the same up to
-- one are one name there, so the part on archives is for names without it.
theorem files_apart_iff (tree : FileTree) :
    (∀ options archive, ofTree options tree = .ok archive →
      fileNames none archive.entries = (tree.paths.map fun path => utf8 (nameOf path.relative.toList)) ∧
      ((∀ path ∈ tree.paths, '\x00' ∉ path.relative.toList) →
        ∀ first ∈ tree.paths, ∀ second ∈ tree.paths, first ≠ second →
          (utf8 (nameOf first.relative.toList) = utf8 (nameOf second.relative.toList) ↔
            plain first.segments = plain second.segments ∧ isWhole first.relative.toList = true))) ∧
    (∀ disk other base target beside, DiskPath.isAbsolute base = true →
      ∀ first ∈ tree.paths, ∀ second ∈ tree.paths,
        locate disk (pathOf base first.segments) = .ok target →
        locate other (pathOf base second.segments) = .ok beside →
          (target.place = beside.place ↔ plain first.segments = plain second.segments)) ∧
    ∀ first ∈ tree.paths, ∀ second ∈ tree.paths, Dotless first.segments → Dotless second.segments →
      plain first.segments = plain second.segments → first = second := by
  refine ⟨fun options archive packed => ?_, ?_, ?_⟩
  · obtain ⟨present, names⟩ := Archive.of_tree_names options tree archive packed
    refine ⟨names, fun clean first listed second also different => ?_⟩
    rw [← Archive.same_name_iff first second (present first listed) (present second also) (clean first listed)
      (clean second also) different]
    exact ⟨Archive.utf8_injective _ _, congrArg utf8⟩
  · intro disk other base target beside absolute first _ second _ located again
    exact Disk.same_place_iff disk other base first second target beside absolute located again
  · intro first _ second _ dotless dotlessAlso same
    rw [plain_dotless _ dotless, plain_dotless _ dotlessAlso] at same
    exact FilePath.segments_injective first second same

def twins : FileTree :=
  ⟨⟨[⟨⟨["a".toList], by decide⟩, "one"⟩, ⟨⟨[".".toList, "a".toList], by decide⟩, "two"⟩], by decide⟩⟩

def plainTwin : FilePath := ⟨["a".toList], by decide⟩

def dottedTwin : FilePath := ⟨[".".toList, "a".toList], by decide⟩

theorem twins_together : plainTwin ∈ twins.paths ∧ dottedTwin ∈ twins.paths ∧
    (∃ archive, ofTree .standard twins = .ok archive ∧
      fileNames none archive.entries = twins.paths.map fun path => utf8 (nameOf path.relative.toList)) ∧
    utf8 (nameOf plainTwin.relative.toList) = utf8 (nameOf dottedTwin.relative.toList) ∧
    ∃ target beside, locate (Disk.empty ["out"]) (pathOf "/out" plainTwin.segments) = .ok target ∧
      locate (Disk.empty ["out"]) (pathOf "/out" dottedTwin.segments) = .ok beside ∧ target.place = beside.place := by
  have listed : plainTwin ∈ twins.paths ∧ dottedTwin ∈ twins.paths := by decide
  obtain ⟨archive, packed⟩ : ∃ archive, ofTree .standard twins = .ok archive := ⟨_, rfl⟩
  obtain ⟨inArchive, onDisk, _⟩ := files_apart_iff twins
  obtain ⟨names, apart⟩ := inArchive .standard archive packed
  refine ⟨listed.1, listed.2, ⟨archive, packed, names⟩, ?_, ⟨["out", "a"], false, false⟩, ⟨["out", "a"], false, false⟩,
    by decide +kernel, by decide +kernel, ?_⟩
  · exact (apart (by decide) plainTwin listed.1 dottedTwin listed.2 (by decide)).mpr (by decide +kernel)
  · exact (onDisk (Disk.empty ["out"]) (Disk.empty ["out"]) "/out" _ _ (by decide) plainTwin listed.1 dottedTwin
      listed.2 (by decide +kernel) (by decide +kernel)).mpr (by decide +kernel)

-- Two files are added and kept; an archive has one name for both of them, and on a
-- disk the second is written over the first.
theorem dotted_twin_overwrites : (∃ first, empty.add "/a" "one" = .ok first ∧ first.add "/./a" "two" = .ok twins) ∧
    (twins.read "/a" = .ok "one" ∧ twins.read "/./a" = .ok "two") ∧
    (∃ archive, ofTree .standard twins = .ok archive ∧
      fileNames none archive.entries = [utf8 "a".toList, utf8 "a".toList]) ∧
    ((Export.run (m := StateM Disk) .standard twins "/out").run (Disk.empty ["out"])).1 = .ok () ∧
    ((Export.run (m := StateM Disk) .standard twins "/out").run (Disk.empty ["out"])).2.entries.items =
      [⟨["out"], .directory⟩, ⟨["out", "a"], .file (.text "two")⟩] := by
  refine ⟨⟨_, rfl, rfl⟩, by decide +kernel, ⟨_, rfl, by decide +kernel⟩, by decide +kernel, by decide +kernel⟩

end ClientPackager.FileTree
