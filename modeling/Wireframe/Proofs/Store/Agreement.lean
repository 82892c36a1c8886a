import Mathlib.Data.List.Induction
import Wireframe.Proofs.Files.Directories
import Wireframe.Proofs.Store.Lawful

/-!
# Directories and memory

A store in a directory answers like the memory as long as its keys can be names of files, and
refuses all others without any change (`FileStore.agrees_with_memory`). What carries this is that
no two of the names that are written are the same (`FileStore.names_apart`), for keys may have dots
and end like names of files themselves.

The directory has to be one that can be made, and nothing must stand in the way of a file
(`FileStore.Ready`). All else that is needed for a save to succeed is proved, from the calls before.
-/

namespace Wireframe

/-! ## Calls -/

/-- A call of a store. -/
inductive StoreCall where
  | load (key : String)
  | save (key text : String)

/-- What comes of a call. -/
inductive StoreAnswer where
  | loaded (text : Option String)
  | saved
  | failed (error : StorageError)
deriving DecidableEq

namespace StoreCall

def key : StoreCall → String
  | load key => key
  | save key _ => key

/-- What a store answers. -/
def answer {σ : Type} [KeyValueStore σ] (s : σ) : StoreCall → StoreAnswer
  | load key =>
    match KeyValueStore.load s key with
    | .ok text => .loaded text
    | .error e => .failed e
  | save key text =>
    match KeyValueStore.save s key text with
    | .ok _ => .saved
    | .error e => .failed e

end StoreCall

/-- The store after a call, whatever came of it. -/
def FileStore.after (s : FileStore) : StoreCall → FileStore
  | .load _ => s
  | .save key text => s.afterSave key text

/-- The store after a call. -/
def MemoryStore.after (s : MemoryStore) : StoreCall → MemoryStore
  | .load _ => s
  | .save key text => s.put key text

/-- The text that was saved last under a key. -/
def lastSaved (calls : List StoreCall) (key : String) : Option String :=
  calls.reverse.findSome? fun
    | .save other text => if other = key then some text else none
    | .load _ => none

/-- What a call is answered after others: a load finds the text that was saved last. -/
def StoreCall.answerAfter (before : List StoreCall) : StoreCall → StoreAnswer
  | load key => .loaded (lastSaved before key)
  | save _ _ => .saved

/-! ## Memory -/

namespace MemoryStore

theorem get?_put (m : MemoryStore) (key text other : String) :
    (m.put key text).get? other = if other = key then some text else m.get? other := by
  simp only [put, get?, lookup_cons_eq_ite, lookup_filter_ne]
  split_ifs <;> rfl

/-- The memory has what was saved last. -/
theorem get?_after (calls : List StoreCall) (key : String) :
    (calls.foldl after empty).get? key = lastSaved calls key := by
  induction calls using List.reverseRecOn with
  | nil => rfl
  | append_singleton calls call ih =>
    rw [List.foldl_concat, lastSaved, List.reverse_concat, List.findSome?_cons]
    cases call with
    | load other => exact ih
    | save other text =>
      rw [after, get?_put]
      by_cases same : other = key
      · simp [same]
      · simp only [same, Ne.symm same, if_false]
        exact ih

theorem answer_after (before : List StoreCall) (call : StoreCall) :
    call.answer (before.foldl after empty) = call.answerAfter before := by
  cases call with
  | load key => rw [StoreCall.answerAfter, ← get?_after]; rfl
  | save key text => rfl

end MemoryStore

/-! ## Names of files -/

namespace FileStore

section

variable {key : String} (isKey_key : isKey key = true)
include isKey_key

/-- What starts like a key is not made of dots. -/
theorem noDots_append (suffix : String) : key ++ suffix ≠ "." ∧ key ++ suffix ≠ ".." := by
  have noDot : key.toList.head? ≠ some '.' := by
    have noDot := isKey_key
    simp only [isKey, Bool.and_eq_true, decide_eq_true_eq] at noDot
    exact noDot.2
  have some_key : key.toList ≠ [] := by simpa using ne_empty_of_isKey isKey_key
  have first : (key ++ suffix).toList.head? ≠ some '.' := by
    rwa [String.toList_append, List.head?_append_of_ne_nil _ some_key]
  exact ⟨fun eq => first (by rw [eq]; rfl), fun eq => first (by rw [eq]; rfl)⟩

theorem noDots_fileName : fileName key ≠ "." ∧ fileName key ≠ ".." :=
  noDots_append isKey_key _

theorem noDots_temporaryName : temporaryName key ≠ "." ∧ temporaryName key ≠ ".." := by
  rw [temporaryName_eq isKey_key]
  exact noDots_append isKey_key _

/-- The file of a key lies in the directory, and so does the one that is written first. -/
theorem place_location (s : FileStore) :
    Files.place (s.location (fileName key)) = Files.place s.directory ++ [fileName key] ∧
      Files.place (s.location (temporaryName key)) =
        Files.place s.directory ++ [temporaryName key] :=
  ⟨Files.place_below (isName_fileName isKey_key) (noDots_fileName isKey_key),
    Files.place_below (isName_temporaryName isKey_key) (noDots_temporaryName isKey_key)⟩

/-- No name is used for two files. -/
theorem names_apart {key' : String} (isKey_key' : isKey key' = true) :
    (fileName key = fileName key' ↔ key = key') ∧
      (temporaryName key = temporaryName key' ↔ key = key') ∧
      temporaryName key ≠ fileName key' := by
  rw [temporaryName_eq isKey_key, temporaryName_eq isKey_key']
  refine ⟨String.append_left_inj _, String.append_left_inj _, fun eq => ?_⟩
  -- the one ends in p and the other in n
  have last := congrArg (fun name : String => name.toList.getLast?) eq
  simp [fileName, String.toList_append] at last

end

/-! ## Files -/

/-- A directory has room for a file under a name: there will be no directory in its place, and
neither the name nor the location is too long. -/
structure HasRoom (s : FileStore) (name : String) : Prop where
  free : s.prepared.files.hasDirectory (Files.place s.directory ++ [name]) = false
  short : name.utf8ByteSize ≤ s.files.longestName
  short_location : (s.location name).text.utf8ByteSize ≤ s.files.longestLocation

/-- The directory is there or can be made, and has room for the files of some keys. -/
structure Ready (s : FileStore) (keys : List String) : Prop where
  made : (s.files.makeDirectory s.directory).2 = .ok ()
  room : ∀ key ∈ keys, isKey key = true → s.HasRoom (fileName key) ∧ s.HasRoom (temporaryName key)

instance (s : FileStore) (name : String) : Decidable (s.HasRoom name) :=
  decidable_of_iff
    (s.prepared.files.hasDirectory (Files.place s.directory ++ [name]) = false ∧
      name.utf8ByteSize ≤ s.files.longestName ∧
      (s.location name).text.utf8ByteSize ≤ s.files.longestLocation)
    ⟨fun ⟨free, short, short_location⟩ => ⟨free, short, short_location⟩,
      fun room => ⟨room.free, room.short, room.short_location⟩⟩

instance (s : FileStore) (keys : List String) : Decidable (s.Ready keys) :=
  decidable_of_iff
    ((s.files.makeDirectory s.directory).2 = .ok () ∧
      ∀ key ∈ keys, isKey key = true → s.HasRoom (fileName key) ∧ s.HasRoom (temporaryName key))
    ⟨fun ⟨made, room⟩ => ⟨made, room⟩, fun ready => ⟨ready.made, ready.room⟩⟩

/-- The files after a text was saved under a key. -/
def written (s : FileStore) (key text : String) : Files :=
  (s.prepared.files.moved (Files.place s.directory) (temporaryName key) (temporaryName key)
    text).moved (Files.place s.directory) (temporaryName key) (fileName key) text

section

variable {s : FileStore} {keys : List String} {key : String}

theorem keeps_written (s : FileStore) (key text : String) :
    s.prepared.files.Keeps (s.written key text) :=
  (Files.keeps_moved ..).trans (Files.keeps_moved ..)

theorem text?_written (s : FileStore) (key text : String) (place : List String) :
    (s.written key text).text? place =
      if place = Files.place s.directory ++ [fileName key] then some text
      else if place = Files.place s.directory ++ [temporaryName key] then none
      else s.files.text? place := by
  have same : s.prepared.files.text? place = s.files.text? place := by
    rw [Files.text?, Files.text?, prepared, (Files.keeps_makeDirectory ..).2]
  rw [written, Files.text?_moved, Files.text?_moved, same]
  split_ifs <;> rfl

/-- A file can be made where there is room for it, once the directory can be reached. -/
theorem HasRoom.isSeat {name : String} {files : Files} (room : s.HasRoom name)
    (isName : Location.IsName name) (noDots : name ≠ "." ∧ name ≠ "..")
    (keeps : s.files.Keeps files) (reaches : files.Reaches s.directory) :
    files.IsSeat (s.location name) (Files.place s.directory) name :=
  reaches.isSeat_below isName noDots (keeps.longestName ▸ room.short)
    (keeps.longestLocation ▸ room.short_location)

/-- After a save there is as much room as before. -/
theorem HasRoom.written {name : String} (room : s.HasRoom name)
    (made : (s.files.makeDirectory s.directory).2 = .ok ()) (key text : String) :
    HasRoom { s with files := s.written key text } name := by
  have keeps : s.files.Keeps (s.written key text) :=
    (Files.keeps_makeDirectory s.files s.directory).1.trans (keeps_written s key text)
  refine ⟨?_, keeps.longestName ▸ room.short, keeps.longestLocation ▸ room.short_location⟩
  rw [prepared, Files.makeDirectory_again made (keeps_written s key text), FileStore.written,
    Files.hasDirectory_moved_beside, Files.hasDirectory_moved_beside, room.free]

variable (ready : s.Ready keys) (mem : key ∈ keys) (isKey_key : isKey key = true)
include ready mem isKey_key

/-- A save writes the file of its key. -/
theorem Ready.save_eq (text : String) :
    s.save key text = .ok { s with files := s.written key text } := by
  obtain ⟨room_file, room_temporary⟩ := ready.room key mem isKey_key
  have keeps : s.files.Keeps s.prepared.files := (Files.keeps_makeDirectory ..).1
  have reaches : s.prepared.files.Reaches s.directory := Files.reaches_of_makeDirectory ready.made
  have source := room_temporary.isSeat (isName_temporaryName isKey_key)
    (noDots_temporaryName isKey_key) keeps reaches
  have target := room_file.isSeat (isName_fileName isKey_key) (noDots_fileName isKey_key) keeps
    reaches
  have noSlash : (s.location (temporaryName key)).endsInSlash = false :=
    Location.endsInSlash_below (isName_temporaryName isKey_key) _
  have first := source.write_eq noSlash text room_temporary.free
  have second := (source.keeps (Files.keeps_moved s.prepared.files (Files.place s.directory)
    (temporaryName key) (temporaryName key) text)).rename_eq noSlash
      (target.keeps (Files.keeps_moved ..)) (by rw [Files.text?_moved, if_pos rfl])
      (by rw [Files.hasDirectory_moved_beside, room_file.free])
  rw [save, if_pos isKey_key, ready.made, first]
  simp only [lift, bind, Except.bind, second]
  rfl

/-- A load reads the file of its key, if the directory is there when there is one. -/
theorem Ready.load_eq (there : s.files.Reaches s.directory ∨
      s.files.text? (Files.place s.directory ++ [fileName key]) = none) :
    s.load key = .ok (s.files.text? (Files.place s.directory ++ [fileName key])) := by
  obtain ⟨room, -⟩ := ready.room key mem isKey_key
  have isName := isName_fileName isKey_key
  have noSlash : (s.location (fileName key)).endsInSlash = false :=
    Location.endsInSlash_below isName _
  rw [load, if_pos isKey_key]
  rcases Files.reaches_or_missing ready.made with reaches | missing
  · have isSeat := room.isSeat isName (noDots_fileName isKey_key) (.refl s.files) reaches
    cases text_eq : s.files.text? (Files.place s.directory ++ [fileName key]) with
    | some text => rw [isSeat.read_of_text noSlash text_eq]
    | none =>
      have free : s.files.hasDirectory (Files.place s.directory ++ [fileName key]) = false := by
        refine Bool.eq_false_iff.2 fun directory => ?_
        have := (Files.keeps_makeDirectory s.files s.directory).1.directories _ directory
        exact absurd this (Bool.eq_false_iff.1 room.free)
      rw [isSeat.read_of_absent noSlash text_eq free]
  · have absent : s.files.text? (Files.place s.directory ++ [fileName key]) = none := by
      refine there.resolve_left fun reaches => ?_
      have walked := reaches.1
      rw [missing] at walked
      cases walked
    rw [location, Files.read_below_of_missing isName missing room.short_location, absent]

end

/-! ## Agreement -/

/-- A directory has the texts that the memory has under some keys, as far as they can be names of
files. -/
structure AgreesOn (s : FileStore) (keys : List String) (m : MemoryStore) : Prop
    extends s.Ready keys where
  text_eq : ∀ key ∈ keys, isKey key = true →
    s.files.text? (Files.place s.directory ++ [fileName key]) = m.get? key
  there : s.files.Reaches s.directory ∨ ∀ key ∈ keys, isKey key = true → m.get? key = none

section

variable {s : FileStore} {keys : List String} {m : MemoryStore} {call : StoreCall}

/-- A key that can be no name of a file is refused, and nothing is done for it. -/
theorem refused (noKey : isKey call.key = false) :
    call.answer s = .failed (.invalidKey call.key) ∧ s.after call = s := by
  cases call with
  | load key =>
    have load_eq : s.load key = .error (.invalidKey key) := if_neg (Bool.eq_false_iff.1 noKey)
    refine ⟨?_, rfl⟩
    simp only [StoreCall.answer, KeyValueStore.load, load_eq]
    rfl
  | save key text =>
    have save_eq : s.save key text = .error (.invalidKey key) := if_neg (Bool.eq_false_iff.1 noKey)
    constructor
    · simp only [StoreCall.answer, KeyValueStore.save, save_eq]
      rfl
    · simp only [after, afterSave, save_eq]

theorem AgreesOn.answer_eq (agrees : s.AgreesOn keys m) (mem : call.key ∈ keys)
    (isKey_key : isKey call.key = true) : call.answer s = call.answer m := by
  cases call with
  | load key =>
    have load_eq : s.load key = .ok (m.get? key) := by
      rw [← agrees.text_eq key mem isKey_key]
      refine agrees.toReady.load_eq mem isKey_key (agrees.there.imp_right fun nothing => ?_)
      rw [agrees.text_eq key mem isKey_key, nothing key mem isKey_key]
    simp only [StoreCall.answer, KeyValueStore.load, load_eq]
  | save key text =>
    have save_eq : s.save key text = .ok { s with files := s.written key text } :=
      agrees.toReady.save_eq mem isKey_key text
    simp only [StoreCall.answer, KeyValueStore.save, save_eq]

/-- What agrees still agrees after a text was saved under a key. -/
theorem AgreesOn.put {key : String} (agrees : s.AgreesOn keys m) (isKey_key : isKey key = true)
    (text : String) : AgreesOn { s with files := s.written key text } keys (m.put key text) where
  made := by rw [Files.makeDirectory_again agrees.made (keeps_written s key text)]
  room other mem isKey_other :=
    (agrees.room other mem isKey_other).imp (fun room => room.written agrees.made key text)
      fun room => room.written agrees.made key text
  text_eq other mem isKey_other := by
    obtain ⟨same_file, -, -⟩ := names_apart isKey_other isKey_key
    obtain ⟨-, -, apart⟩ := names_apart isKey_key isKey_other
    rw [text?_written, MemoryStore.get?_put, agrees.text_eq other mem isKey_other]
    simp only [List.append_cancel_left_eq, List.cons.injEq, and_true, same_file, Ne.symm apart,
      if_false]
  there := .inl ((Files.reaches_of_makeDirectory agrees.made).keeps (keeps_written s key text))

/-- What agrees still agrees after a call. -/
theorem AgreesOn.after (agrees : s.AgreesOn keys m) (mem : call.key ∈ keys) :
    (s.after call).AgreesOn keys (m.after call) := by
  cases call with
  | load key => exact agrees
  | save key text =>
    by_cases isKey_key : isKey key = true
    · have save_eq : s.save key text = .ok { s with files := s.written key text } :=
        agrees.toReady.save_eq mem isKey_key text
      rw [FileStore.after, afterSave, save_eq]
      exact agrees.put isKey_key text
    · -- what the memory keeps under other keys is nothing to the directory
      have noKey : isKey (StoreCall.save key text).key = false := Bool.eq_false_iff.2 isKey_key
      rw [(refused noKey).2]
      have get?_eq : ∀ other, isKey other = true → (m.put key text).get? other = m.get? other := by
        intro other isKey_other
        rw [MemoryStore.get?_put, if_neg fun same : other = key => isKey_key (same ▸ isKey_other)]
      exact {
        agrees with
        text_eq := fun other mem isKey_other =>
          (agrees.text_eq other mem isKey_other).trans (get?_eq other isKey_other).symm
        there := agrees.there.imp_right fun nothing other mem isKey_other =>
          (get?_eq other isKey_other).trans (nothing other mem isKey_other) }

/-- What agrees still agrees after any calls. -/
theorem AgreesOn.foldl {calls : List StoreCall} (agrees : s.AgreesOn keys m)
    (mem : ∀ call ∈ calls, call.key ∈ keys) :
    (calls.foldl FileStore.after s).AgreesOn keys (calls.foldl MemoryStore.after m) := by
  induction calls generalizing s m with
  | nil => exact agrees
  | cons call calls ih =>
    exact ih (agrees.after (mem call List.mem_cons_self)) fun other later =>
      mem other (List.mem_cons_of_mem call later)

/-- A call leaves all files alone but those of its key. -/
theorem Ready.text?_after (ready : s.Ready keys) (mem : call.key ∈ keys) {place : List String}
    (elsewhere : place ≠ Files.place s.directory ++ [fileName call.key] ∧
      place ≠ Files.place s.directory ++ [temporaryName call.key]) :
    (s.after call).files.text? place = s.files.text? place := by
  by_cases isKey_key : isKey call.key = true
  · cases call with
    | load key => rfl
    | save key text =>
      have save_eq : s.save key text = .ok { s with files := s.written key text } :=
        ready.save_eq mem isKey_key text
      rw [after, afterSave, save_eq]
      exact (text?_written s key text place).trans
        ((if_neg elsewhere.1).trans (if_neg elsewhere.2))
  · rw [(refused (Bool.eq_false_iff.2 isKey_key)).2]

theorem directory_after (s : FileStore) (call : StoreCall) :
    (s.after call).directory = s.directory := by
  cases call with
  | load key => rfl
  | save key text =>
    rw [after, afterSave]
    split
    · next saved =>
      obtain ⟨-, _, -, -, directory_eq⟩ := of_save saved
      exact directory_eq
    · rfl
    · rfl

theorem directory_foldl (s : FileStore) (calls : List StoreCall) :
    (calls.foldl after s).directory = s.directory := by
  induction calls generalizing s with
  | nil => rfl
  | cons call calls ih => rw [List.foldl_cons, ih, directory_after]

/-- A directory without files is the memory for all keys that can be names of files: after any
calls the next has the same answer, a load that of the text saved last. All other keys are refused
and change nothing. A call changes no text but in its key's own files, which lie directly in the
directory, and each of which no other key has for a file of its own. -/
theorem agrees_with_memory {s : FileStore} {before : List StoreCall} {call : StoreCall}
    (ready : s.Ready ((before ++ [call]).map StoreCall.key))
    (empty : ∀ key ∈ (before ++ [call]).map StoreCall.key, isKey key = true →
      s.files.text? (Files.place (s.location (fileName key))) = none) :
    (isKey call.key = true →
      call.answer (before.foldl after s) = call.answerAfter before ∧
        call.answer (before.foldl MemoryStore.after .empty) = call.answerAfter before) ∧
    (isKey call.key = false →
      call.answer (before.foldl after s) = .failed (.invalidKey call.key) ∧
        (before.foldl after s).after call = before.foldl after s) ∧
    (∀ place, place ≠ Files.place s.directory ++ [fileName call.key] →
      place ≠ Files.place s.directory ++ [temporaryName call.key] →
        ((before.foldl after s).after call).files.text? place =
          (before.foldl after s).files.text? place) ∧
    (∀ key, isKey key = true →
      Files.place (s.location (fileName key)) = Files.place s.directory ++ [fileName key] ∧
        Files.place (s.location (temporaryName key)) =
          Files.place s.directory ++ [temporaryName key]) ∧
    ∀ key key', isKey key = true → isKey key' = true →
      (Files.place (s.location (fileName key)) = Files.place (s.location (fileName key')) →
        key = key') ∧
      (Files.place (s.location (temporaryName key)) = Files.place (s.location (temporaryName key')) →
        key = key') ∧
      Files.place (s.location (temporaryName key)) ≠ Files.place (s.location (fileName key')) := by
  have starts : s.AgreesOn ((before ++ [call]).map StoreCall.key) .empty :=
    { ready with
      text_eq := fun key mem isKey_key => by
        rw [← (place_location isKey_key s).1]
        exact empty key mem isKey_key
      there := .inr fun _ _ _ => rfl }
  have agrees := starts.foldl fun other mem =>
    List.mem_map_of_mem (List.mem_append_left [call] mem)
  have mem : call.key ∈ (before ++ [call]).map StoreCall.key :=
    List.mem_map_of_mem (List.mem_append_right before List.mem_cons_self)
  have directory_eq := directory_foldl s before
  refine ⟨fun isKey_key => ?_, refused, fun place noFile noTemporary => ?_,
    fun key isKey_key => place_location isKey_key s, fun key key' isKey_key isKey_key' => ?_⟩
  · have memory_eq := MemoryStore.answer_after before call
    exact ⟨(agrees.answer_eq mem isKey_key).trans memory_eq, memory_eq⟩
  · refine agrees.toReady.text?_after mem ?_
    rw [directory_eq]
    exact ⟨noFile, noTemporary⟩
  · obtain ⟨file, temporary, apart⟩ := names_apart isKey_key isKey_key'
    simp only [(place_location isKey_key s).1, (place_location isKey_key s).2,
      (place_location isKey_key' s).1, (place_location isKey_key' s).2,
      List.append_cancel_left_eq, List.cons.injEq, and_true, ne_eq]
    exact ⟨file.1, temporary.1, apart⟩

/-- Keys that end like names of files do not get in each other's way, whatever was left over where
the directory will be. -/
theorem endings_stay_apart :
    let s : FileStore := ⟨⟨"new/../data"⟩,
      { Files.empty with texts := [(["data", "a.json.tmp"], "old"), (["a.json"], "elsewhere")] }⟩
    let before : List StoreCall := [.save "a" "1", .save "a.json" "2", .load "../a.json",
      .save "a.json.tmp" "3", .save "../a" "4", .save "a" "5"]
    let call : StoreCall := .load "a.json"
    s.Ready ((before ++ [call]).map StoreCall.key) ∧
      (∀ key ∈ (before ++ [call]).map StoreCall.key, isKey key = true →
        s.files.text? (Files.place (s.location (fileName key))) = none) ∧
      call.answer (before.foldl after s) = .loaded (some "2") ∧
      (before.foldl after s).files.text? ["a.json"] = some "elsewhere" := by
  intro s before call
  have ready : s.Ready ((before ++ [call]).map StoreCall.key) := by decide +kernel
  have empty : ∀ key ∈ (before ++ [call]).map StoreCall.key, isKey key = true →
      s.files.text? (Files.place (s.location (fileName key))) = none := by decide +kernel
  have agrees := agrees_with_memory ready empty
  exact ⟨ready, empty, (agrees.1 (by decide)).1, by decide +kernel⟩

end

end FileStore

end Wireframe
