import Mathlib.Data.List.Basic
import Wireframe.Files.Tree
import Wireframe.Proofs.Results

/-!
# Ways to files

The names of a location below a directory are those of the directory and one more
(`Location.names_below`). A way, if it can be gone, leads to the place that its names make
(`Files.eq_of_walk`), and it can be gone wherever the directories on it are
(`Files.Keeps.walk`). Where a file can be made (`Files.IsSeat`) it is known what every operation
does : nothing but the files that it is for and their directory changes (`Files.text?_moved`,
`Files.hasDirectory_moved`). So a text that was written beside a file and then took its place is
read there (`Files.read_of_rename`).
-/

namespace Wireframe

/-! ## Pieces -/

namespace Chars

variable {isMark : Char → Bool}

theorem pieces_ne_nil : ∀ cs : List Char, pieces isMark cs ≠ []
  | [] => by simp [pieces]
  | c :: cs => by
    rw [pieces, List.foldr_cons]
    split
    · simp
    · split <;> simp

/-- A mark ends the pieces before it. -/
theorem pieces_append_mark {mark : Char} (isMark_mark : isMark mark = true) (b : List Char) :
    ∀ a : List Char, pieces isMark (a ++ mark :: b) = pieces isMark a ++ pieces isMark b
  | [] => by simp [pieces, isMark_mark]
  | c :: a => by
    have ih := pieces_append_mark isMark_mark b a
    have some_piece : pieces isMark a ≠ [] := pieces_ne_nil a
    simp only [pieces] at ih some_piece ⊢
    rw [List.cons_append, List.foldr_cons, List.foldr_cons, ih]
    obtain ⟨part, parts, eq⟩ := List.exists_cons_of_ne_nil some_piece
    rw [eq]
    split <;> rfl

/-- A text without marks is one piece. -/
theorem pieces_of_noMark : ∀ {cs : List Char}, (∀ c ∈ cs, isMark c = false) →
    pieces isMark cs = [cs]
  | [], _ => rfl
  | c :: cs, noMark => by
    have ih := pieces_of_noMark fun d mem => noMark d (List.mem_cons_of_mem c mem)
    rw [pieces] at ih ⊢
    rw [List.foldr_cons, ih]
    simp [noMark c (by simp)]

end Chars

/-! ## Names below a directory -/

namespace Location

/-- Texts that are one name. -/
structure IsName (name : String) : Prop where
  some_char : name ≠ ""
  noSlash : '/' ∉ name.toList

variable {name : String} (isName : IsName name)
include isName

theorem names_of_isName : (⟨name⟩ : Location).names = [name] := by
  have whole : Chars.pieces (· = '/') name.toList = [name.toList] :=
    Chars.pieces_of_noMark fun c mem => decide_eq_false fun slash => isName.noSlash (slash ▸ mem)
  simp [names, pieces, whole, isName.some_char]

theorem isAbsolute_of_isName : (⟨name⟩ : Location).isAbsolute = false := by
  simp only [isAbsolute, decide_eq_false_iff_not]
  intro slash
  exact isName.noSlash (List.mem_of_head? slash)

/-- A name below a directory stands behind its text, with one slash between them. -/
theorem below_eq (directory : Location) :
    (directory.text = "" ∧ directory.below ⟨name⟩ = ⟨name⟩) ∨
      ∃ front, (directory.text.toList = front ∧ front ≠ [] ∨ directory.text.toList = front ++ ['/']) ∧
        (directory.below ⟨name⟩).text.toList = front ++ '/' :: name.toList := by
  unfold below
  rw [isAbsolute_of_isName isName, Bool.false_or]
  by_cases empty : directory.text = ""
  · exact .inl ⟨empty, by simp [empty]⟩
  have some_text : directory.text.toList ≠ [] := by simpa using empty
  simp only [empty, decide_false, Bool.false_eq_true, if_false]
  split
  · next slash =>
    obtain ⟨front, eq⟩ := List.getLast?_eq_some_iff.1 (of_decide_eq_true slash)
    exact .inr ⟨front, .inr eq, by simp [eq]⟩
  · exact .inr ⟨directory.text.toList, .inl ⟨rfl, some_text⟩, by simp⟩

/-- A name below a directory comes after the names of the directory. -/
theorem names_below (directory : Location) :
    (directory.below ⟨name⟩).names = directory.names ++ [name] := by
  have last := names_of_isName isName
  rcases below_eq isName directory with ⟨empty, eq⟩ | ⟨front, front_eq, eq⟩
  · rw [eq, last]
    simp [names, pieces, empty, Chars.pieces]
  · simp only [names, pieces] at last ⊢
    rw [eq, Chars.pieces_append_mark rfl, List.filter_append, List.map_append, last]
    rcases front_eq with ⟨eq, -⟩ | eq
    · rw [eq]
    · rw [eq, Chars.pieces_append_mark rfl]
      simp [Chars.pieces]

theorem isAbsolute_below (directory : Location) :
    (directory.below ⟨name⟩).isAbsolute = directory.isAbsolute := by
  rcases below_eq isName directory with ⟨empty, eq⟩ | ⟨front, front_eq, eq⟩
  · rw [eq, isAbsolute_of_isName isName]
    simp [isAbsolute, empty]
  · rw [isAbsolute, isAbsolute, eq]
    rcases front_eq with ⟨eq, some_char⟩ | eq
    · rw [eq, List.head?_append_of_ne_nil _ some_char]
    · rw [eq]
      cases front <;> rfl

theorem endsInSlash_below (directory : Location) :
    (directory.below ⟨name⟩).endsInSlash = false := by
  have ends : (directory.below ⟨name⟩).text.toList.getLast? = name.toList.getLast? := by
    have some_char : name.toList ≠ [] := by simpa using isName.some_char
    rcases below_eq isName directory with ⟨-, eq⟩ | ⟨front, -, eq⟩
    · rw [eq]
    · rw [eq, List.append_cons, List.getLast?_append_of_ne_nil _ some_char]
  simp only [endsInSlash, ends, decide_eq_false_iff_not]
  intro slash
  exact isName.noSlash (List.mem_of_getLast? slash)

end Location

/-! ## Extensions -/

namespace Location

variable {front extension : String}

/-- What stands before a dot and an extension without dots is the stem. -/
theorem stem_append (some_front : front ≠ "") (noDot : '.' ∉ extension.toList) :
    stem (front ++ "." ++ extension) = front := by
  have behind : ∀ c ∈ extension.toList.reverse, decide (c ≠ '.') = true := by
    intro c mem
    exact decide_eq_true fun dot => noDot (dot ▸ List.mem_reverse.1 mem)
  have cut : ((front ++ "." ++ extension).toList.reverse.dropWhile (· ≠ '.')).tail =
      front.toList.reverse := by
    rw [String.toList_append, String.toList_append, List.reverse_append, List.reverse_append,
      List.dropWhile_append_of_pos behind]
    rfl
  unfold stem
  rw [cut]
  split
  · next none => simp [some_front] at none
  · simp

/-- An extension without dots is replaced by another. -/
theorem withExtension_append {other : String} (some_front : front ≠ "")
    (some_extension : extension ≠ "") (noDot : '.' ∉ extension.toList) (some_other : other ≠ "") :
    withExtension (front ++ "." ++ extension) other = front ++ "." ++ other := by
  have long : 2 < (front ++ "." ++ extension).toList.length := by
    have front_pos : 0 < front.toList.length := List.length_pos_iff.2 (by simpa using some_front)
    have extension_pos : 0 < extension.toList.length :=
      List.length_pos_iff.2 (by simpa using some_extension)
    have dot : ".".toList.length = 1 := rfl
    rw [String.toList_append, String.toList_append, List.length_append, List.length_append]
    omega
  have isName : ∀ name : String, name.toList.length ≤ 2 → front ++ "." ++ extension ≠ name := by
    rintro name short rfl
    exact absurd long (Nat.not_lt.2 short)
  have noDirectory : ¬ (front ++ "." ++ extension = "" ∨ front ++ "." ++ extension = "." ∨
      front ++ "." ++ extension = "..") := by
    rintro (eq | eq | eq) <;> exact isName _ (by decide) eq
  rw [withExtension, if_neg noDirectory, stem_append some_front noDot, if_neg some_other,
    ← String.append_assoc]

end Location

/-! ## Ways -/

namespace Files

variable {files files' : Files}

/-- Entering a name leads one place further, from a directory. -/
theorem of_enter {place place' : List String} {name : String}
    (entered : files.enter place name = .ok place') :
    place' = next place name ∧ files.hasDirectory place = true := by
  unfold enter at entered
  split at entered
  · cases entered
  · next directory =>
    have directory' : files.hasDirectory place = true := by simpa using directory
    split at entered
    · exact ⟨(Except.ok.inj entered).symm, directory'⟩
    split at entered
    · cases entered
    split at entered
    · exact ⟨(Except.ok.inj entered).symm, directory'⟩
    · cases entered

theorem walk_cons_eq_ok {start place : List String} {name : String} {names : List String} :
    files.walk start (name :: names) = .ok place ↔
      ∃ second, files.enter start name = .ok second ∧ files.walk second names = .ok place := by
  rw [walk, List.foldlM_cons, bind_eq_ok_iff]
  rfl

/-- The last name of a way is entered at the end of the others. -/
theorem walk_concat (start : List String) (names : List String) (name : String) :
    files.walk start (names ++ [name]) =
      (files.walk start names >>= fun above => files.enter above name) := by
  simp [walk, List.foldlM_append]

/-- A way leads to the place that its names make. -/
theorem eq_of_walk {names : List String} : ∀ {start place : List String},
    files.walk start names = .ok place → place = names.foldl next start := by
  induction names with
  | nil =>
    intro start place walked
    exact (Except.ok.inj walked).symm
  | cons name names ih =>
    intro start place walked
    obtain ⟨second, entered, walked⟩ := walk_cons_eq_ok.1 walked
    rw [List.foldl_cons, ← (of_enter entered).1]
    exact ih walked

theorem hasDirectory_start {start place : List String} {names : List String}
    (walked : files.walk start names = .ok place) (last : files.hasDirectory place = true) :
    files.hasDirectory start = true := by
  cases names with
  | nil =>
    obtain rfl := Except.ok.inj walked
    exact last
  | cons name names =>
    obtain ⟨second, entered, -⟩ := walk_cons_eq_ok.1 walked
    exact (of_enter entered).2

/-- All directories of some files are there in others, where no more is too long. -/
structure Keeps (files files' : Files) : Prop where
  longestName : files'.longestName = files.longestName
  longestLocation : files'.longestLocation = files.longestLocation
  directories : ∀ place, files.hasDirectory place = true → files'.hasDirectory place = true

namespace Keeps

theorem refl (files : Files) : files.Keeps files :=
  ⟨rfl, rfl, fun _ => id⟩

theorem trans {files'' : Files} (first : files.Keeps files') (second : files'.Keeps files'') :
    files.Keeps files'' :=
  ⟨second.longestName.trans first.longestName,
    second.longestLocation.trans first.longestLocation,
    fun place directory => second.directories place (first.directories place directory)⟩

variable (keeps : files.Keeps files')
include keeps

theorem check_eq (l : Location) : files'.check l = files.check l := by
  rw [check, check, keeps.longestLocation]

theorem enter {place place' : List String} {name : String}
    (entered : files.enter place name = .ok place') (reached : files'.has place' = true) :
    files'.enter place name = .ok place' := by
  obtain ⟨place_eq, here⟩ := of_enter entered
  rw [place_eq] at reached ⊢
  unfold Files.enter at entered ⊢
  simp only [here, keeps.directories place here, keeps.longestName, reached] at entered ⊢
  by_cases dots : name = "." ∨ name = ".."
  · simp [dots]
  by_cases long : files.longestName < name.utf8ByteSize
  · simp [dots, long] at entered
  · simp [dots, long]

/-- A way can be gone wherever there are the directories on it. -/
theorem walk {names : List String} : ∀ {start place : List String},
    files.walk start names = .ok place → files.hasDirectory place = true →
      files'.walk start names = .ok place := by
  induction names with
  | nil => exact fun walked _ => walked
  | cons name names ih =>
    intro start place walked last
    obtain ⟨second, entered, walked⟩ := walk_cons_eq_ok.1 walked
    refine walk_cons_eq_ok.2 ⟨second, keeps.enter entered ?_, ih walked last⟩
    rw [has, keeps.directories second (hasDirectory_start walked last), Bool.true_or]

end Keeps

/-! ## Seats -/

/-- A location where something can be made in a directory that is there, under a name that is not
too long. -/
structure IsSeat (files : Files) (l : Location) (above : List String) (name : String) : Prop where
  checked : files.check l = .ok ()
  names_eq : l.names = l.names.dropLast ++ [name]
  walked : files.walk (start l) l.names.dropLast = .ok above
  directory : files.hasDirectory above = true
  noDots : name ≠ "." ∧ name ≠ ".."
  short : name.utf8ByteSize ≤ files.longestName

/-- A new file can be made where there is a directory, under a name that is not too long. -/
theorem of_seat {l : Location} {place : List String} (seated : files.seat l = .ok (some place)) :
    ∃ above name, files.IsSeat l above name ∧ place = above ++ [name] := by
  unfold seat at seated
  obtain ⟨⟨⟩, checked, seated⟩ := bind_eq_ok_iff.1 seated
  split at seated
  · cases seated
  next name last =>
  obtain ⟨above, walked, seated⟩ := bind_eq_ok_iff.1 seated
  by_cases directory : files.hasDirectory above = true
  · by_cases dots : name = "." ∨ name = ".."
    · simp [directory, dots] at seated
    by_cases long : files.longestName < name.utf8ByteSize
    · simp [directory, dots, long] at seated
    · have place_eq : next above name = place := by simpa [directory, dots, long] using seated
      obtain ⟨noDot, noDots⟩ := not_or.1 dots
      refine ⟨above, name, ⟨checked, (List.dropLast_append_getLast? name last).symm, walked,
        directory, ⟨noDot, noDots⟩, Nat.not_lt.1 long⟩, ?_⟩
      rw [← place_eq, next, if_neg noDot, if_neg noDots]
  · simp [directory] at seated

namespace IsSeat

variable {l : Location} {above : List String} {name : String}

theorem keeps (isSeat : files.IsSeat l above name) (keeps : files.Keeps files') :
    files'.IsSeat l above name where
  checked := (keeps.check_eq l).trans isSeat.checked
  names_eq := isSeat.names_eq
  walked := keeps.walk isSeat.walked isSeat.directory
  directory := keeps.directories above isSeat.directory
  noDots := isSeat.noDots
  short := keeps.longestName ▸ isSeat.short

variable (isSeat : files.IsSeat l above name)
include isSeat

theorem seat_eq : files.seat l = .ok (some (above ++ [name])) := by
  have last : l.names.getLast? = some name := by rw [isSeat.names_eq, List.getLast?_concat]
  have next_eq : next above name = above ++ [name] := by simp [next, isSeat.noDots]
  simp [seat, isSeat.checked, last, isSeat.walked, isSeat.directory, isSeat.noDots,
    Nat.not_lt.2 isSeat.short, next_eq, bind, Except.bind]

/-- The names make the place of the seat. -/
theorem place_eq : place l = above ++ [name] := by
  rw [place, isSeat.names_eq, List.foldl_append, ← eq_of_walk isSeat.walked]
  simp [next, isSeat.noDots]

theorem walk_eq : files.walk (start l) l.names =
    if files.has (above ++ [name]) then .ok (above ++ [name]) else .error .notFound := by
  have next_eq : next above name = above ++ [name] := by simp [next, isSeat.noDots]
  rw [isSeat.names_eq, walk_concat, isSeat.walked]
  simp [bind, Except.bind, enter, isSeat.directory, isSeat.noDots, Nat.not_lt.2 isSeat.short,
    next_eq]

/-- What is at a seat is found. -/
theorem find_eq (noSlash : l.endsInSlash = false) : files.find l =
    if files.has (above ++ [name]) then .ok (above ++ [name]) else .error .notFound := by
  rw [find, isSeat.checked, isSeat.walk_eq]
  split <;> simp [bind, Except.bind, noSlash]

end IsSeat

/-! ## Operations -/

/-- What is found lies at the place that the names make. -/
theorem eq_of_find {l : Location} {found : List String} (found_eq : files.find l = .ok found) :
    found = place l := by
  unfold find at found_eq
  obtain ⟨⟨⟩, -, found_eq⟩ := bind_eq_ok_iff.1 found_eq
  obtain ⟨place', walked, found_eq⟩ := bind_eq_ok_iff.1 found_eq
  split at found_eq
  · cases found_eq
  · cases found_eq
    exact eq_of_walk walked

theorem of_write {l : Location} {text : String} (written : files.write l text = .ok files') :
    ∃ place, files.seat l = .ok (some place) ∧ files' = files.put place text := by
  unfold write at written
  obtain ⟨seated, seat_eq, written⟩ := bind_eq_ok_iff.1 written
  split at written
  · cases written
  · next place =>
    split at written
    · cases written
    · exact ⟨place, seat_eq, (Except.ok.inj written).symm⟩

theorem of_rename {source target : Location} (renamed : files.rename source target = .ok files') :
    ∃ old text new, files.find source = .ok old ∧ files.text? old = some text ∧
      files.seat target = .ok (some new) ∧
      files' = { files with texts := files.texts.filter fun entry => entry.1 ≠ old }.put new text := by
  unfold rename at renamed
  obtain ⟨old, found, renamed⟩ := bind_eq_ok_iff.1 renamed
  obtain ⟨seated, seat_eq, renamed⟩ := bind_eq_ok_iff.1 renamed
  split at renamed
  · next text new text_eq =>
    split at renamed
    · cases renamed
    · exact ⟨old, text, new, found, text_eq, seat_eq, (Except.ok.inj renamed).symm⟩
  · cases renamed

theorem hasDirectory_iff {place : List String} : files.hasDirectory place = true ↔
    isOutside place = true ∨ (∃ d ∈ files.directories, place <+: d) ∨
      ∃ entry ∈ files.texts, place <+: entry.1 ∧ place ≠ entry.1 := by
  simp [hasDirectory, or_assoc]

/-- The files after one was moved in its directory. -/
def moved (files : Files) (above : List String) (old new text : String) : Files :=
  { files with texts := files.texts.filter fun entry => entry.1 ≠ above ++ [old] }.put
    (above ++ [new]) text

section

variable (files) (above : List String) (old new text : String)

/-- To write a file is to move it where it is. -/
theorem put_eq_moved : files.put (above ++ [new]) text = files.moved above new new text := by
  simp [put, moved]

theorem text?_moved (place : List String) : (files.moved above old new text).text? place =
    if place = above ++ [new] then some text
    else if place = above ++ [old] then none
    else files.text? place := by
  rw [moved, put, text?]
  simp only [lookup_cons_eq_ite, lookup_filter_ne, text?]
  split_ifs <;> rfl

/-- The directories are those that were there, and the one of the file. -/
theorem hasDirectory_moved {place : List String} :
    (files.moved above old new text).hasDirectory place = true ↔
      files.hasDirectory place = true ∨ place <+: above := by
  have inside (name : String) : place <+: above ++ [name] ∧ place ≠ above ++ [name] ↔
      place <+: above := by
    refine ⟨fun below => (List.prefix_concat_iff.1 below.1).resolve_left below.2,
      fun upTo => ⟨upTo.trans (List.prefix_append _ _), fun same => ?_⟩⟩
    have := upTo.length_le
    rw [same, List.length_append, List.length_singleton] at this
    omega
  have mem_moved {entry : List String × String} : entry ∈ (files.moved above old new text).texts ↔
      entry = (above ++ [new], text) ∨
        entry ∈ files.texts ∧ entry.1 ≠ above ++ [new] ∧ entry.1 ≠ above ++ [old] := by
    simp [moved, put]
  have here (upTo : place <+: above) : ∃ entry ∈ (files.moved above old new text).texts,
      place <+: entry.1 ∧ place ≠ entry.1 :=
    ⟨(above ++ [new], text), mem_moved.2 (.inl rfl), (inside new).2 upTo⟩
  rw [hasDirectory_iff, hasDirectory_iff]
  constructor
  · rintro (outside | made | ⟨entry, mem, below⟩)
    · exact .inl (.inl outside)
    · exact .inl (.inr (.inl made))
    rcases mem_moved.1 mem with rfl | ⟨mem, -⟩
    · exact .inr ((inside new).1 below)
    · exact .inl (.inr (.inr ⟨entry, mem, below⟩))
  · rintro ((outside | made | ⟨entry, mem, below⟩) | upTo)
    · exact .inl outside
    · exact .inr (.inl made)
    · -- the directory of the file stays one since the moved file is in it
      by_cases atOld : entry.1 = above ++ [old]
      · exact .inr (.inr (here ((inside old).1 (atOld ▸ below))))
      by_cases atNew : entry.1 = above ++ [new]
      · exact .inr (.inr (here ((inside new).1 (atNew ▸ below))))
      · exact .inr (.inr ⟨entry, mem_moved.2 (.inr ⟨mem, atNew, atOld⟩), below⟩)
    · exact .inr (.inr (here upTo))

theorem keeps_moved : files.Keeps (files.moved above old new text) :=
  ⟨rfl, rfl, fun _ directory => (hasDirectory_moved ..).2 (.inl directory)⟩

/-- No file becomes a directory. -/
theorem hasDirectory_moved_beside (name : String) :
    (files.moved above old new text).hasDirectory (above ++ [name]) =
      files.hasDirectory (above ++ [name]) := by
  have outside : ¬ above ++ [name] <+: above := fun upTo => by
    have := upTo.length_le
    rw [List.length_append, List.length_singleton] at this
    omega
  rw [Bool.eq_iff_iff, hasDirectory_moved, or_iff_left outside]

end

namespace IsSeat

variable {l : Location} {above : List String} {name text : String}
  (isSeat : files.IsSeat l above name) (noSlash : l.endsInSlash = false)
include isSeat noSlash

theorem read_of_text (here : files.text? (above ++ [name]) = some text) :
    files.read l = .ok text := by
  rw [read, isSeat.find_eq noSlash, has, here, Option.isSome_some, Bool.or_true, if_pos rfl]
  simp [bind, Except.bind, here]

theorem read_of_absent (absent : files.text? (above ++ [name]) = none)
    (free : files.hasDirectory (above ++ [name]) = false) : files.read l = .error .notFound := by
  rw [read, isSeat.find_eq noSlash, has, absent, free]
  rfl

theorem write_eq (text : String) (free : files.hasDirectory (above ++ [name]) = false) :
    files.write l text = .ok (files.moved above name name text) := by
  rw [write, isSeat.seat_eq]
  simp [bind, Except.bind, noSlash, free, put_eq_moved]

theorem rename_eq {target : Location} {new : String} (isSeat_target : files.IsSeat target above new)
    (here : files.text? (above ++ [name]) = some text)
    (free : files.hasDirectory (above ++ [new]) = false) :
    files.rename l target = .ok (files.moved above name new text) := by
  rw [rename, isSeat.find_eq noSlash, has, here, Option.isSome_some, Bool.or_true, if_pos rfl,
    isSeat_target.seat_eq]
  simp [bind, Except.bind, here, free, moved]

end IsSeat

/-- What was written beside a file and then took its place is read there. -/
theorem read_of_rename {source target : Location} {text : String} {middle : Files}
    (starts : start source = start target) (siblings : source.names.dropLast = target.names.dropLast)
    (noSlash : target.endsInSlash = false) (written : files.write source text = .ok middle)
    (renamed : middle.rename source target = .ok files') : files'.read target = .ok text := by
  obtain ⟨place, seat_source, rfl⟩ := of_write written
  obtain ⟨old, movedText, new, found, text_eq, seat_target, files'_eq⟩ := of_rename renamed
  obtain ⟨above, sourceName, isSeat_source, rfl⟩ := of_seat seat_source
  obtain ⟨above', name, isSeat_target, rfl⟩ := of_seat seat_target
  obtain rfl : above' = above := by
    rw [eq_of_walk isSeat_source.walked, eq_of_walk isSeat_target.walked, starts, siblings]
  obtain rfl : old = above' ++ [sourceName] := (eq_of_find found).trans isSeat_source.place_eq
  rw [put_eq_moved, text?_moved, if_pos rfl] at text_eq
  obtain rfl := Option.some.inj text_eq
  replace files'_eq : files' = moved _ above' sourceName name text := files'_eq
  rw [files'_eq]
  refine (isSeat_target.keeps (keeps_moved ..)).read_of_text noSlash ?_
  rw [text?_moved, if_pos rfl]

end Files

end Wireframe
