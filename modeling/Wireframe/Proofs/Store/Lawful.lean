import Wireframe.Proofs.Files.Ways
import Wireframe.Store.Directory
import Wireframe.Store.Memory

/-!
# Lawful stores

A store is lawful if it gives back what it took. The history relies on nothing else. Both the
memory and a directory are lawful stores, the directory whatever files there are and wherever it
lies.
-/

namespace Wireframe

/-- Stores that give back a text under the key that it was saved under. -/
class LawfulStore (σ : Type) [KeyValueStore σ] : Prop where
  load_save : ∀ {s s' : σ} {key text : String}, KeyValueStore.save s key text = .ok s' →
    KeyValueStore.load s' key = .ok (some text)

/-- The memory gives back what it took. -/
instance : LawfulStore MemoryStore where
  load_save := by
    intro s s' key text saved
    obtain rfl := Except.ok.inj saved
    simp [KeyValueStore.load, MemoryStore.get?, MemoryStore.put]

/-! ## Directories -/

namespace FileStore

section

variable {key : String} (isKey_key : isKey key = true)
include isKey_key

theorem ne_empty_of_isKey : key ≠ "" := by
  rintro rfl
  cases isKey_key

/-- Keys have no slashes. -/
theorem isName_append {suffix : String} (noSlash : '/' ∉ suffix.toList) :
    Location.IsName (key ++ suffix) := by
  obtain ⟨⟨some_char, all⟩, -⟩ : (key ≠ "" ∧ key.toList.all isKeyChar = true) ∧ _ := by
    simpa only [isKey, Bool.and_eq_true, decide_eq_true_eq] using isKey_key
  refine ⟨by simp [some_char], fun mem => ?_⟩
  rw [String.toList_append, List.mem_append] at mem
  rcases mem with mem | mem
  · have := List.all_eq_true.1 all _ mem
    cases this
  · exact noSlash mem

theorem isName_fileName : Location.IsName (fileName key) :=
  isName_append isKey_key (by decide)

/-- Whatever dots are in a key, it is the last extension of its file's name that is replaced. -/
theorem temporaryName_eq : temporaryName key = key ++ ".json.tmp" := by
  have fileName_eq : fileName key = key ++ "." ++ "json" := by
    rw [fileName, String.append_assoc]
    rfl
  rw [temporaryName, fileName_eq, Location.withExtension_append (ne_empty_of_isKey isKey_key)
    (by decide) (by decide) (by decide), String.append_assoc]
  rfl

theorem isName_temporaryName : Location.IsName (temporaryName key) := by
  rw [temporaryName_eq isKey_key]
  exact isName_append isKey_key (by decide)

end

theorem lift_eq_ok_iff {α : Type} {x : Except FileError α} {a : α} :
    lift x = .ok a ↔ x = .ok a := by
  cases x <;> simp [lift]

/-- What a save does : the text is written beside the file of its key and takes its place. -/
theorem of_save {s s' : FileStore} {key text : String} (saved : s.save key text = .ok s') :
    isKey key = true ∧ ∃ middle, s.prepared.files.write (s.location (temporaryName key)) text =
        .ok middle ∧
      middle.rename (s.location (temporaryName key)) (s.location (fileName key)) = .ok s'.files ∧
      s'.directory = s.directory := by
  unfold save at saved
  split at saved
  · next isKey_key =>
    obtain ⟨⟨⟩, -, saved⟩ := bind_eq_ok_iff.1 saved
    obtain ⟨middle, written, saved⟩ := bind_eq_ok_iff.1 saved
    obtain ⟨files, renamed, saved⟩ := bind_eq_ok_iff.1 saved
    cases saved
    exact ⟨isKey_key, middle, lift_eq_ok_iff.1 written, lift_eq_ok_iff.1 renamed, rfl⟩
  · cases saved

/-- A directory gives back what it took. -/
theorem load_of_save {s s' : FileStore} {key text : String} (saved : s.save key text = .ok s') :
    s'.load key = .ok (some text) := by
  obtain ⟨isKey_key, middle, written, renamed, directory_eq⟩ := of_save saved
  have source := isName_temporaryName isKey_key
  have target := isName_fileName isKey_key
  have read : s'.files.read (s'.location (fileName key)) = .ok text := by
    rw [location, directory_eq]
    refine Files.read_of_rename ?_ ?_ (Location.endsInSlash_below target _) written renamed
    · rw [Files.start, Files.start, location, Location.isAbsolute_below source,
        Location.isAbsolute_below target]
    · rw [location, Location.names_below source, Location.names_below target,
        List.dropLast_concat, List.dropLast_concat]
  rw [load, if_pos isKey_key, read]

end FileStore

instance : LawfulStore FileStore where
  load_save := FileStore.load_of_save

end Wireframe
