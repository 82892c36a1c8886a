import Wireframe.Proofs.Files.Ways

/-!
# Directories that are made

To make a directory changes no file and takes no directory away (`Files.keeps_makeDirectory`). When
it succeeds the way to the directory can be gone (`Files.reaches_of_makeDirectory`), and it could
before unless something on it was missing (`Files.reaches_or_missing`). To make it again changes
nothing as long as the directories stay (`Files.makeDirectory_again`). What is under a name in the
directory lies one place further (`Files.place_below`), where a file can be made
(`Files.Reaches.isSeat_below`).
-/

namespace Wireframe

namespace Files

variable {files files' : Files} {l : Location}

/-- The way of a location can be gone and ends at a directory. -/
def Reaches (files : Files) (l : Location) : Prop :=
  files.walk (start l) l.names = .ok (place l) ∧ files.hasDirectory (place l) = true

theorem Reaches.keeps (reaches : files.Reaches l) (keeps : files.Keeps files') : files'.Reaches l :=
  ⟨keeps.walk reaches.1 reaches.2, keeps.directories _ reaches.2⟩

/-- Relative locations start at a directory. -/
theorem reaches_of_empty (empty : l.text = "") : files.Reaches l := by
  obtain rfl : l = ⟨""⟩ := congrArg Location.mk empty
  exact ⟨rfl, rfl⟩

theorem isDirectory_iff : files.isDirectory l = true ↔ files.check l = .ok () ∧ files.Reaches l := by
  constructor
  · intro directory
    unfold isDirectory at directory
    split at directory
    · next found found_eq =>
      obtain rfl := eq_of_find found_eq
      unfold find at found_eq
      obtain ⟨⟨⟩, checked, found_eq⟩ := bind_eq_ok_iff.1 found_eq
      obtain ⟨place', walked, -⟩ := bind_eq_ok_iff.1 found_eq
      obtain rfl : place' = place l := eq_of_walk walked
      exact ⟨checked, walked, directory⟩
    · cases directory
  · rintro ⟨checked, walked, directory⟩
    simp [isDirectory, find, checked, walked, directory, bind, Except.bind]

/-! ## One directory -/

theorem of_makeOne (made : files.makeOne l = .ok files') :
    ∃ above name, files.IsSeat l above name ∧ files.has (above ++ [name]) = false ∧
      files' = { files with directories := (above ++ [name]) :: files.directories } := by
  unfold makeOne at made
  obtain ⟨seated, seat_eq, made⟩ := bind_eq_ok_iff.1 made
  split at made
  · cases made
  · obtain ⟨above, name, isSeat, rfl⟩ := of_seat seat_eq
    split at made
    · cases made
    · next free => exact ⟨above, name, isSeat, by simpa using free, (Except.ok.inj made).symm⟩

theorem keeps_makeOne (made : files.makeOne l = .ok files') :
    files.Keeps files' ∧ files'.texts = files.texts := by
  obtain ⟨above, name, -, -, rfl⟩ := of_makeOne made
  refine ⟨⟨rfl, rfl, fun place directory => ?_⟩, rfl⟩
  rw [hasDirectory_iff] at directory ⊢
  exact directory.imp_right (Or.imp_left fun ⟨d, mem, below⟩ => ⟨d, List.mem_cons_of_mem _ mem, below⟩)

theorem isDirectory_of_makeOne (made : files.makeOne l = .ok files') :
    files'.isDirectory l = true := by
  obtain ⟨keeps, -⟩ := keeps_makeOne made
  obtain ⟨above, name, isSeat, -, rfl⟩ := of_makeOne made
  replace isSeat := isSeat.keeps keeps
  have directory : hasDirectory { files with directories := (above ++ [name]) :: files.directories }
      (above ++ [name]) = true :=
    hasDirectory_iff.2 (.inr (.inl ⟨_, List.mem_cons_self, List.prefix_refl _⟩))
  refine isDirectory_iff.2 ⟨isSeat.checked, ?_, ?_⟩
  · rw [isSeat.walk_eq, has, directory, Bool.true_or, if_pos rfl, isSeat.place_eq]
  · rw [isSeat.place_eq, directory]

/-- There was nothing where a directory was made. -/
theorem missing_of_makeOne (made : files.makeOne l = .ok files') :
    files.walk (start l) l.names = .error .notFound := by
  obtain ⟨above, name, isSeat, free, -⟩ := of_makeOne made
  rw [isSeat.walk_eq, free, if_neg Bool.false_ne_true]

/-- If it is for something missing that a directory is not made, it is on the way. -/
theorem missing_of_makeOne_eq_error (some_text : l.text ≠ "")
    (failed : files.makeOne l = .error .notFound) :
    files.walk (start l) l.names = .error .notFound := by
  have seat_eq : files.seat l = .error .notFound := by
    unfold makeOne at failed
    rcases bind_eq_error_iff.1 failed with failed | ⟨seated, -, failed⟩
    · exact failed
    · split at failed
      · cases failed
      · split at failed <;> cases failed
  unfold seat at seat_eq
  rcases bind_eq_error_iff.1 seat_eq with unchecked | ⟨⟨⟩, -, seat_eq⟩
  · unfold check at unchecked
    rw [if_neg some_text] at unchecked
    split at unchecked <;> cases unchecked
  · split at seat_eq
    · cases seat_eq
    next name last =>
    have names_eq : l.names = l.names.dropLast ++ [name] :=
      (List.dropLast_append_getLast? name last).symm
    rcases bind_eq_error_iff.1 seat_eq with missing | ⟨above, -, seat_eq⟩
    · rw [names_eq, walk_concat, missing]
      rfl
    · split_ifs at seat_eq <;> cases seat_eq

/-- A directory is not made where there is one. -/
theorem makeOne_of_isDirectory (isDirectory : files.isDirectory l = true) :
    files.makeOne l = .error .alreadyThere := by
  obtain ⟨checked, walked, directory⟩ := isDirectory_iff.1 isDirectory
  cases last : l.names.getLast? with
  | none => simp [makeOne, seat, checked, last, bind, Except.bind]
  | some name =>
    have names_eq : l.names = l.names.dropLast ++ [name] :=
      (List.dropLast_append_getLast? name last).symm
    rw [names_eq, walk_concat] at walked
    obtain ⟨above, walked, entered⟩ := bind_eq_ok_iff.1 walked
    obtain ⟨place_eq, here⟩ := of_enter entered
    by_cases dots : name = "." ∨ name = ".."
    · simp [makeOne, seat, checked, last, walked, here, dots, bind, Except.bind]
    have short : ¬ files.longestName < name.utf8ByteSize := by
      intro long
      simp [enter, here, dots, long] at entered
    rw [place_eq] at directory
    simp [makeOne, seat, checked, last, walked, here, dots, short, has, directory, bind, Except.bind]

/-! ## Directories with those above -/

/-- A directory made unless it is there, when those above it are. -/
def settled (files : Files) (l : Location) : Files × Except FileError Unit :=
  match files.makeOne l with
  | .ok made => (made, .ok ())
  | .error e => (files, if files.isDirectory l then .ok () else .error e)

theorem makeChain_cons (files : Files) (l : Location) (above : List Location) :
    files.makeChain (l :: above) =
      match files.makeOne l with
      | .error .notFound =>
        match files.makeChain above with
        | (made, .ok ()) => made.settled l
        | failed => failed
      | _ => files.settled l :=
  rfl

theorem keeps_settled (files : Files) (l : Location) :
    files.Keeps (files.settled l).1 ∧ (files.settled l).1.texts = files.texts := by
  unfold settled
  split
  · next made => exact keeps_makeOne made
  · exact ⟨.refl files, rfl⟩

theorem isDirectory_of_settled (done : (files.settled l).2 = .ok ()) :
    (files.settled l).1.isDirectory l = true := by
  unfold settled at done ⊢
  split at done
  · next made => exact isDirectory_of_makeOne made
  · by_contra absent
    simp [absent] at done

theorem keeps_makeChain (files : Files) : ∀ chain : List Location,
    files.Keeps (files.makeChain chain).1 ∧ (files.makeChain chain).1.texts = files.texts
  | [] => ⟨.refl files, rfl⟩
  | l :: above => by
    obtain ⟨keeps, texts_eq⟩ := keeps_makeChain files above
    rw [makeChain_cons]
    split
    · split
      · next made chain_eq =>
        rw [chain_eq] at keeps texts_eq
        obtain ⟨keeps', texts_eq'⟩ := keeps_settled made l
        exact ⟨keeps.trans keeps', texts_eq'.trans texts_eq⟩
      · exact ⟨keeps, texts_eq⟩
    · exact keeps_settled files l

theorem isDirectory_of_makeChain {above : List Location}
    (done : (files.makeChain (l :: above)).2 = .ok ()) :
    (files.makeChain (l :: above)).1.isDirectory l = true := by
  rw [makeChain_cons] at done ⊢
  split at done
  · split at done
    · exact isDirectory_of_settled done
    · next failed => exact (failed _ (Prod.ext rfl done)).elim
  · exact isDirectory_of_settled done

theorem keeps_makeDirectory (files : Files) (l : Location) :
    files.Keeps (files.makeDirectory l).1 ∧ (files.makeDirectory l).1.texts = files.texts := by
  unfold makeDirectory
  split
  · exact ⟨.refl files, rfl⟩
  · exact keeps_makeChain files _

section

variable (done : (files.makeDirectory l).2 = .ok ())
include done

/-- A directory that was made can be reached. -/
theorem reaches_of_makeDirectory : (files.makeDirectory l).1.Reaches l := by
  unfold makeDirectory at done ⊢
  split at done
  · next empty => exact reaches_of_empty empty
  · next some_text =>
    rw [if_neg some_text]
    exact (isDirectory_iff.1 (isDirectory_of_makeChain done)).2

/-- Before a directory is made it can be reached too, or something is missing. -/
theorem reaches_or_missing :
    files.Reaches l ∨ files.walk (start l) l.names = .error .notFound := by
  unfold makeDirectory at done
  split at done
  · next empty => exact .inl (reaches_of_empty empty)
  next some_text =>
  rw [makeChain_cons] at done
  split at done
  · next failed => exact .inr (missing_of_makeOne_eq_error some_text failed)
  · unfold settled at done
    split at done
    · next made => exact .inr (missing_of_makeOne made)
    · refine .inl (isDirectory_iff.1 ?_).2
      by_contra absent
      simp [absent] at done

/-- A directory that was made is not made again. -/
theorem makeDirectory_again (keeps : (files.makeDirectory l).1.Keeps files') :
    files'.makeDirectory l = (files', .ok ()) := by
  unfold makeDirectory at done keeps ⊢
  split at done
  · next empty => rw [if_pos empty]
  next some_text =>
  rw [if_neg some_text] at keeps ⊢
  obtain ⟨checked, reaches⟩ := isDirectory_iff.1 (isDirectory_of_makeChain done)
  have isDirectory : files'.isDirectory l = true :=
    isDirectory_iff.2 ⟨(keeps.check_eq l).trans checked, reaches.keeps keeps⟩
  rw [makeChain_cons, makeOne_of_isDirectory isDirectory]
  simp [settled, makeOne_of_isDirectory isDirectory, isDirectory]

end

/-! ## Files in a directory -/

section

variable {directory : Location} {name : String} (isName : Location.IsName name)
include isName

theorem start_below : start (directory.below ⟨name⟩) = start directory := by
  rw [start, start, Location.isAbsolute_below isName]

/-- The location of a name can be looked up if it is not too long. -/
theorem check_below
    (short : (directory.below ⟨name⟩).text.utf8ByteSize ≤ files.longestLocation) :
    files.check (directory.below ⟨name⟩) = .ok () := by
  have some_text : (directory.below ⟨name⟩).text ≠ "" := by
    intro empty
    have names_eq := Location.names_below isName directory
    rw [Location.names, Location.pieces, empty] at names_eq
    simp [Chars.pieces] at names_eq
  rw [check, if_neg some_text, if_neg (Nat.not_lt.2 short)]

/-- What is under a name in a directory lies directly below it. -/
theorem place_below (noDots : name ≠ "." ∧ name ≠ "..") :
    place (directory.below ⟨name⟩) = place directory ++ [name] := by
  rw [place, Location.names_below isName, start_below isName, List.foldl_append]
  simp [next, noDots, place]

/-- A file can be made under a name in a directory that can be reached. -/
theorem Reaches.isSeat_below (reaches : files.Reaches directory)
    (noDots : name ≠ "." ∧ name ≠ "..") (short : name.utf8ByteSize ≤ files.longestName)
    (short_location : (directory.below ⟨name⟩).text.utf8ByteSize ≤ files.longestLocation) :
    files.IsSeat (directory.below ⟨name⟩) (place directory) name where
  checked := check_below isName short_location
  names_eq := by rw [Location.names_below isName, List.dropLast_concat]
  walked := by
    rw [Location.names_below isName, List.dropLast_concat, start_below isName]
    exact reaches.1
  directory := reaches.2
  noDots := noDots
  short := short

/-- Nothing is read from a directory that is missing. -/
theorem read_below_of_missing
    (missing : files.walk (start directory) directory.names = .error .notFound)
    (short_location : (directory.below ⟨name⟩).text.utf8ByteSize ≤ files.longestLocation) :
    files.read (directory.below ⟨name⟩) = .error .notFound := by
  rw [read, find, check_below isName short_location, start_below isName,
    Location.names_below isName, walk_concat, missing]
  rfl

end

end Files

end Wireframe
