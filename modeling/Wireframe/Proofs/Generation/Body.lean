import Wireframe.Generation.Reply

/-!
# Bodies of replies

A body holds the value that it is the text of. If it is no JSON, it holds the value of the span
from its first opening brace to the last closing brace behind it (`Reply.Holds`). Around a text in
braces there may be prose : where none of it opens a brace before the text or closes one behind it,
the text is found again (`Reply.block?_append`), and the body is answered like the text alone
(`Reply.prose_changes_nothing`).
-/

namespace Wireframe

/-- The error as it is told of another body. -/
def ServiceError.about (body : String) : ServiceError → ServiceError
  | malformed fault _ => malformed fault body
  | other => other

/-- A text is read as the value that its tokens make, if no name is repeated in it. -/
theorem Json.parse?_of_feed? {text : String} {value : Json}
    (read : Token.feed? (Reader.step? nestingBound) .between (.awaitValue []) text.toList =
      some (.complete value)) (settled_eq : value.settled = value) :
    parse? text = some value := by
  rw [parse?, read?, read]
  simp [Reader.value?, settled_eq]

namespace Reply

/-! ## Spans in braces -/

/-- Texts from an opening to a closing brace. -/
structure Braced (cs : List Char) : Prop where
  opens : cs.head? = some '\x7b'
  closes : cs.getLast? = some '\x7d'

theorem Braced.ne_nil {cs : List Char} (braced : Braced cs) : cs ≠ [] := by
  rintro rfl
  cases braced.opens

/-- What is dropped up to a mark leaves the text from the mark on. -/
theorem dropWhile_append_mark {mark : Char} {before rest : List Char} (absent : mark ∉ before)
    (first : rest.head? = some mark) : (before ++ rest).dropWhile (· ≠ mark) = rest := by
  obtain ⟨tail, rfl⟩ := List.head?_eq_some_iff.1 first
  have others : ∀ c ∈ before, decide (c ≠ mark) = true := fun c mem =>
    decide_eq_true fun eq => absent (eq ▸ mem)
  rw [List.dropWhile_append_of_pos others, List.dropWhile_cons_of_neg (by simp)]

/-- A text in braces is found between texts that open no brace before it and close none behind
it. -/
theorem block?_append {before block behind : List Char} (braced : Braced block)
    (noOpening : '\x7b' ∉ before) (noClosing : '\x7d' ∉ behind) :
    block? (before ++ (block ++ behind)) = some block := by
  have first : (block ++ behind).head? = some '\x7b' := by
    rw [List.head?_append, braced.opens, Option.some_or]
  have last : block.reverse.head? = some '\x7d' := by
    rw [List.head?_reverse, braced.closes]
  unfold block?
  rw [dropWhile_append_mark noOpening first]
  dsimp only
  rw [List.reverse_append, dropWhile_append_mark (by simpa using noClosing) last,
    List.reverse_reverse, if_neg braced.ne_nil]

/-- The characters of a text are those up to a mark, in which it does not stand, and those from it
on, if there are any. -/
theorem exists_append_dropWhile (mark : Char) (cs : List Char) :
    ∃ before, cs = before ++ cs.dropWhile (· ≠ mark) ∧ mark ∉ before ∧
      (cs.dropWhile (· ≠ mark) ≠ [] → (cs.dropWhile (· ≠ mark)).head? = some mark) := by
  refine ⟨cs.takeWhile (· ≠ mark), List.takeWhile_append_dropWhile.symm, fun mem => ?_,
    fun some_rest => ?_⟩
  · simpa using List.all_eq_true.1 List.all_takeWhile mark mem
  · have stops := List.head_dropWhile_not (· ≠ mark) some_rest
    rw [List.head?_eq_some_head some_rest]
    simpa using stops

/-- What is found is in braces, and nothing before or behind it would have been found as well. -/
theorem exists_of_block? {body block : List Char} (found : block? body = some block) :
    Braced block ∧ ∃ before behind, body = before ++ (block ++ behind) ∧ '\x7b' ∉ before ∧
      '\x7d' ∉ behind := by
  unfold block? at found
  dsimp only at found
  obtain ⟨before, body_eq, noOpening, opens⟩ := exists_append_dropWhile '\x7b' body
  generalize body.dropWhile (· ≠ '\x7b') = fromBrace at body_eq opens found
  obtain ⟨behind, from_eq, noClosing, closes⟩ := exists_append_dropWhile '\x7d' fromBrace.reverse
  generalize fromBrace.reverse.dropWhile (· ≠ '\x7d') = upToBrace at from_eq closes found
  have fromBrace_eq : fromBrace = upToBrace.reverse ++ behind.reverse := by
    rw [← List.reverse_append, ← from_eq, List.reverse_reverse]
  by_cases nothing : upToBrace.reverse = []
  · rw [if_pos nothing] at found
    cases found
  rw [if_neg nothing] at found
  cases found
  have some_from : fromBrace ≠ [] := by
    rw [fromBrace_eq]
    exact List.append_ne_nil_of_left_ne_nil nothing _
  refine ⟨⟨?_, ?_⟩, before, behind.reverse, by rw [← fromBrace_eq, ← body_eq], noOpening, by
    simpa using noClosing⟩
  · rw [← opens some_from, fromBrace_eq, List.head?_append,
      Option.or_of_isSome (List.isSome_head?.2 nothing)]
  · rw [List.getLast?_reverse, closes (by simpa using nothing)]

/-! ## What a body holds -/

/-- The value that a body holds : that of the whole text, or of its span in braces if the whole
text is no JSON. -/
inductive Holds (body : String) : Json → Prop
  | whole {value : Json} (parsed : Json.parse? body = some value) : Holds body value
  | span {value : Json} {before block behind : List Char} (prose : Json.parse? body = none)
    (body_eq : body.toList = before ++ (block ++ behind)) (braced : Braced block)
    (noOpening : '\x7b' ∉ before) (noClosing : '\x7d' ∉ behind)
    (parsed : Json.parse? (String.ofList block) = some value) : Holds body value

/-- The value of a body is what it holds. -/
theorem value?_eq_ok_iff {body : String} {value : Json} :
    value? body = .ok value ↔ Holds body value := by
  constructor
  · intro read
    unfold value? at read
    split at read
    · next parsed =>
      cases read
      exact .whole parsed
    · next prose =>
      split at read
      · cases read
      · next block found =>
        split at read
        · next parsed =>
          cases read
          obtain ⟨braced, before, behind, body_eq, noOpening, noClosing⟩ := exists_of_block? found
          exact .span prose body_eq braced noOpening noClosing parsed
        · cases read
  · rintro (parsed | ⟨prose, body_eq, braced, noOpening, noClosing, parsed⟩)
    · simp [value?, parsed]
    · simp [value?, prose, body_eq, block?_append braced noOpening noClosing, parsed]

/-! ## Prose -/

section

variable {before object behind : String} (braced : Braced object.toList)
  (noOpening : '\x7b' ∉ before.toList) (noClosing : '\x7d' ∉ behind.toList)
include braced noOpening noClosing

/-- A text in braces is the span of every body that puts prose around it. -/
theorem block?_prose :
    block? (before ++ object ++ behind).toList = some object.toList := by
  rw [String.toList_append, String.toList_append, List.append_assoc]
  exact block?_append braced noOpening noClosing

/-- A body with prose around a text in braces has the value of that text, or the same fault. -/
theorem value?_prose (prose : Json.parse? (before ++ object ++ behind) = none) :
    value? (before ++ object ++ behind) = value? object := by
  have alone : block? object.toList = some object.toList := by
    have found : block? ([] ++ (object.toList ++ [])) = some object.toList :=
      block?_append braced (by simp) (by simp)
    simpa using found
  simp only [value?, prose, block?_prose braced noOpening noClosing, alone, String.ofList_toList]
  cases Json.parse? object <;> rfl

/-- Prose around an object changes nothing. A body that is no JSON as a whole, but has a text from
an opening to a closing brace in it with no opening brace before and no closing brace behind that
text, has this text as its span, and gets the same reply, the same refusal or the same fault as the
text alone. Only the fault is told of the whole body. -/
theorem prose_changes_nothing {α : Type} [Reply α]
    (prose : Json.parse? (before ++ object ++ behind) = none) :
    block? (before ++ object ++ behind).toList = some object.toList ∧
      (decode (before ++ object ++ behind) : Except ServiceError α) =
        (decode object).mapError (.about (before ++ object ++ behind)) := by
  refine ⟨block?_prose braced noOpening noClosing, ?_⟩
  unfold decode
  rw [value?_prose braced noOpening noClosing prose]
  cases value? object with
  | error fault => rfl
  | ok value =>
    dsimp only
    cases refusal? value with
    | some e => rfl
    | none =>
      dsimp only
      cases (ofJson value : Except ReplyFault α) <;> rfl

end

/-- Braces in the prose and in a text of the reply do not get in its way. -/
theorem reply_among_stray_braces :
    Braced "\x7b\"dsl\":\"\x7d\x7b\"\x7d".toList ∧ '\x7b' ∉ "Done \x7d: ".toList ∧
      '\x7d' ∉ " \x7bé".toList ∧
      Json.parse? ("Done \x7d: " ++ "\x7b\"dsl\":\"\x7d\x7b\"\x7d" ++ " \x7bé") = none ∧
      block? ("Done \x7d: " ++ "\x7b\"dsl\":\"\x7d\x7b\"\x7d" ++ " \x7bé").toList =
        some "\x7b\"dsl\":\"\x7d\x7b\"\x7d".toList ∧
      (decode ("Done \x7d: " ++ "\x7b\"dsl\":\"\x7d\x7b\"\x7d" ++ " \x7bé") :
        Except ServiceError AssistReply) = .ok ⟨.string "\x7d\x7b", none⟩ := by
  have braced : Braced "\x7b\"dsl\":\"\x7d\x7b\"\x7d".toList := ⟨rfl, by decide⟩
  have noOpening : '\x7b' ∉ "Done \x7d: ".toList := by decide
  have noClosing : '\x7d' ∉ " \x7bé".toList := by decide
  have prose :
      Json.parse? ("Done \x7d: " ++ "\x7b\"dsl\":\"\x7d\x7b\"\x7d" ++ " \x7bé") = none := by
    rw [Json.parse?, Json.read?, String.toList_append, String.toList_append]
    rfl
  have parsed : Json.parse? "\x7b\"dsl\":\"\x7d\x7b\"\x7d" =
      some (.object [("dsl", .string "\x7d\x7b")]) :=
    Json.parse?_of_feed? rfl (by simp [Json.settled, Json.settledMembers, Members.put])
  have decoded : (decode ("Done \x7d: " ++ "\x7b\"dsl\":\"\x7d\x7b\"\x7d" ++ " \x7bé") :
      Except ServiceError AssistReply) = _ :=
    (prose_changes_nothing braced noOpening noClosing prose).2
  refine ⟨braced, noOpening, noClosing, prose, block?_prose braced noOpening noClosing,
    decoded.trans ?_⟩
  rw [decode, value?, parsed]
  rfl

end Reply

end Wireframe
