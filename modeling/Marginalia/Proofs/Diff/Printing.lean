import Mathlib.Tactic.Common
import Marginalia.Diff.Printer
import Marginalia.Proofs.Text.Blank
import Marginalia.Proofs.Text.Numeral

/-!
# The lines of a printed diff

A diff whose paths, headings and contents each stay on one line has, when it is printed, the lines
that it was rendered to.
-/

namespace Marginalia

open Text

/-- A hunk that says nothing across the end of a line. -/
structure Hunk.StaysOnLines (hunk : Hunk) : Prop where
  heading : IsOneLine hunk.heading
  content : ∀ line ∈ hunk.lines, IsOneLine line.content

/-- A changed file that says nothing across the end of a line. -/
structure FileChange.StaysOnLines (file : FileChange) : Prop where
  oldPath : ∀ path ∈ file.oldPath, IsOneLine path
  newPath : ∀ path ∈ file.newPath, IsOneLine path
  hunks : ∀ hunk ∈ file.hunks, hunk.StaysOnLines

private theorem isOneLine_range (start count : Int) : IsOneLine (Hunk.range start count) := by
  have number (value : Int) : IsOneLine (ofInteger value) :=
    fun _ isIn => isBoundary_of_visible (isBlankChar_of_mem_ofInteger isIn)
  rw [Hunk.range, isOneLine_append, isOneLine_cons]
  exact ⟨number start, by decide, number count⟩

private theorem isOneLine_header {hunk : Hunk} (heading : IsOneLine hunk.heading) :
    IsOneLine hunk.header := by
  unfold Hunk.header
  simp only [isOneLine_append]
  refine ⟨⟨⟨⟨⟨by decide, isOneLine_range _ _⟩, by decide⟩, isOneLine_range _ _⟩, by decide⟩, ?_⟩
  split
  · exact isOneLine_nil
  · exact (isOneLine_cons _ _).mpr ⟨by decide, heading⟩

private theorem isOneLine_sidePath {mark : Text} {path : Option Text} (markLine : IsOneLine mark)
    (pathLine : ∀ name ∈ path, IsOneLine name) : IsOneLine (sidePath mark path) := by
  unfold sidePath
  split
  · decide
  · cases path with
    | none => simpa using markLine
    | some name => exact (isOneLine_append _ _).mpr ⟨markLine, pathLine name rfl⟩

theorem BodyLine.isOneLine_render {line : BodyLine} (content : IsOneLine line.content) :
    IsOneLine line.render := by
  refine (isOneLine_cons _ _).mpr ⟨?_, content⟩
  cases line.kind <;> decide

private theorem isOneLine_of_mem_hunk {hunk : Hunk} (stays : hunk.StaysOnLines) :
    ∀ line ∈ hunk.rendered, IsOneLine line := by
  refine List.forall_mem_cons.mpr ⟨isOneLine_header stays.heading, ?_⟩
  intro line isIn
  obtain ⟨body, isBody, rfl⟩ := List.mem_map.mp isIn
  exact BodyLine.isOneLine_render (stays.content body isBody)

theorem isOneLine_of_mem_rendered {file : FileChange} (stays : file.StaysOnLines) :
    ∀ line ∈ file.rendered, IsOneLine line := by
  have old : IsOneLine (sidePath ['a', '/'] file.oldPath) :=
    isOneLine_sidePath (by decide) stays.oldPath
  have new : IsOneLine (sidePath ['b', '/'] file.newPath) :=
    isOneLine_sidePath (by decide) stays.newPath
  unfold FileChange.rendered
  refine List.forall_mem_cons.mpr ⟨(isOneLine_append _ _).mpr ⟨by decide, old⟩,
    List.forall_mem_cons.mpr ⟨(isOneLine_append _ _).mpr ⟨by decide, new⟩, ?_⟩⟩
  intro line isIn
  obtain ⟨hunk, isHunk, inHunk⟩ := List.mem_flatMap.mp isIn
  exact isOneLine_of_mem_hunk (stays.hunks hunk isHunk) line inHunk

/-- The lines of what was printed are the lines that were rendered. -/
theorem Diff.lines_print {diff : Diff} (stays : ∀ file ∈ diff.files, file.StaysOnLines) :
    Text.lines diff.print = diff.rendered := by
  refine lines_unlines fun line isIn => ?_
  obtain ⟨file, isFile, inFile⟩ := List.mem_flatMap.mp isIn
  exact isOneLine_of_mem_rendered (stays file isFile) line inFile

end Marginalia
