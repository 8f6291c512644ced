import Mathlib
import BlobStore.Files

/-!
# What a file holds

A file that was written at a path is found there again with what was written (`read?_of_write?`).
Paths are followed through folders alone, and writing a file neither makes nor takes away a folder.
-/

namespace BlobStore.Files

variable {fs fs' : Files} {place : Place} {content : ByteArray}

theorem find?_of_mem_given (fs : Files) (h : place ∈ given) : fs.find? place = some .folder := by
  rw [find?, if_pos h]

theorem find?_put_file (h : fs.find? place ≠ some .folder) (place' : Place) :
    (fs.put place (.file content)).find? place' = some .folder ↔ fs.find? place' = some .folder := by
  have hgiven : place ∉ given := fun hin => h (find?_of_mem_given fs hin)
  rw [find?_put hgiven]
  split
  · next heq =>
    rw [heq]
    exact iff_of_false (by simp) h
  · exact Iff.rfl

theorem follow_congr (hfolder : ∀ place, fs'.find? place = some .folder ↔ fs.find? place = some .folder)
    (place : Place) (pieces : List Key.Piece) : fs'.follow place pieces = fs.follow place pieces := by
  induction pieces generalizing place with
  | nil => rfl
  | cons piece pieces ih =>
    rw [follow, follow, ih]
    simp only [hfolder]

theorem locate_put_file (h : fs.find? place ≠ some .folder) (path : String) :
    (fs.put place (.file content)).locate path = fs.locate path := by
  simp only [locate, follow_congr (find?_put_file h)]

/-- **What was written is read.** -/
theorem read?_of_write? {path : String} (h : fs.write? path content = some fs') :
    fs'.read? path = some content := by
  obtain ⟨place, hplace, h⟩ := Option.bind_eq_some_iff.mp h
  split at h
  · cases h
  · next hfolder =>
    obtain rfl := Option.some.inj h
    have hgiven : place ∉ given := fun hin => hfolder (find?_of_mem_given fs hin)
    rw [read?, at?, locate_put_file hfolder, hplace, Option.bind_some, find?_put hgiven, if_pos rfl]

theorem contains_of_read? {path : String} (h : fs.read? path = some content) :
    fs.contains path = true := by
  rw [read?] at h
  rw [contains]
  cases hat : fs.at? path with
  | none => rw [hat] at h; cases h
  | some entry => rfl

end BlobStore.Files
