import Mathlib.Data.List.Infix
import Wireframe.Document.Conversion
import Wireframe.Proofs.Chars.Searching
import Wireframe.Proofs.Json.Structure

/-!
# Conversion by keywords

The references to images in a value are its string values that refer to images, depth first
(`Json.imageReferences_eq_filter`). A document is made of the keyword flags and the first
reference, and of nothing else, unless there is neither (`Strategy.keywordLogin_spec`).
-/

namespace Wireframe

open Chars

/-! ## References -/

/-- Texts that refer to an image, in whatever letter case : a data address, a web address, or the
name of a file. -/
def RefersToImage (s : String) : Prop :=
  let text := s.toList.map foldLatin
  "data:image/".toList <+: text ∨ "http://".toList <:+: text ∨ "https://".toList <:+: text ∨
    ".png".toList <:+ text ∨ ".jpg".toList <:+ text ∨ ".jpeg".toList <:+ text

theorem isImageReference_iff {s : String} : isImageReference s = true ↔ RefersToImage s := by
  simp only [isImageReference, RefersToImage, Bool.or_eq_true, List.isPrefixOf_iff_prefix,
    List.isSuffixOf_iff_suffix, contains_eq_true_iff, or_assoc]

instance : DecidablePred RefersToImage := fun _ => decidable_of_iff _ isImageReference_iff

namespace Json

mutual

/-- String values depth first in source order. -/
def strings : Json → List String
  | .string value => [value]
  | .array items => stringsItems items
  | .object members => stringsMembers members
  | .null | .bool _ | .number _ => []

/-- String values in items. -/
def stringsItems : List Json → List String
  | [] => []
  | item :: rest => strings item ++ stringsItems rest

/-- String values in the values of members. -/
def stringsMembers : Members → List String
  | [] => []
  | (_, value) :: rest => strings value ++ stringsMembers rest

end

/-- String values that refer to images. -/
def imageStrings (raw : Json) : List String :=
  raw.strings.filter fun s => RefersToImage s

theorem imageReferencesItems_eq : ∀ {items : List Json},
    (∀ item ∈ items, item.imageReferences = item.imageStrings) →
      imageReferencesItems items = (stringsItems items).filter fun s => RefersToImage s
  | [], _ => rfl
  | item :: rest, each => by
    rw [imageReferencesItems, stringsItems, List.filter_append, each item (by simp),
      imageReferencesItems_eq fun i mem => each i (List.mem_cons_of_mem _ mem)]
    rfl

theorem imageReferencesMembers_eq : ∀ {members : Members},
    (∀ m ∈ members, m.2.imageReferences = m.2.imageStrings) →
      imageReferencesMembers members = (stringsMembers members).filter fun s => RefersToImage s
  | [], _ => rfl
  | (name, value) :: rest, each => by
    rw [imageReferencesMembers, stringsMembers, List.filter_append, each (name, value) (by simp),
      imageReferencesMembers_eq fun m mem => each m (List.mem_cons_of_mem _ mem)]
    rfl

/-- The walk finds the string values that refer to images, in their order. -/
theorem imageReferences_eq (j : Json) : j.imageReferences = j.imageStrings := by
  induction j using Json.induction with
  | null | bool | number => rfl
  | string value =>
    rw [imageReferences, imageStrings, strings, List.filter_singleton]
    by_cases refers : RefersToImage value <;> simp [isImageReference_iff, refers]
  | array items ih =>
    rw [imageReferences, imageStrings, strings, imageReferencesItems_eq ih]
  | object members ih =>
    rw [imageReferences, imageStrings, strings, imageReferencesMembers_eq ih]

end Json

/-! ## Screens by keywords -/

/-- What the fields of a login screen are for. -/
inductive FieldRole where
  | email
  | password
  | action
deriving DecidableEq

/-- The roles that the flags ask for, in the order of the fields. -/
def Keywords.roles (k : Keywords) : List FieldRole :=
  (if k.email then [.email] else []) ++ (if k.password then [.password] else []) ++
    (if k.action then [.action] else [])

namespace Node

/-- The role of an input for addresses or secrets, and of a button. -/
def role? : Node → Option FieldRole
  | .leaf (.input fields) =>
    match fields.kind with
    | .email => some .email
    | .password => some .password
    | .text => none
  | .leaf (.button _) => some .action
  | _ => none

/-- The reference of an image. -/
def imageSource? : Node → Option String
  | .leaf (.image fields) => some fields.src
  | _ => none

/-- The fields of a form. -/
def formFields? : Node → Option (List Node)
  | .group (.form _) children => some children
  | _ => none

end Node

namespace Strategy

/-- What flags and a reference are converted to. -/
def screenOf (k : Keywords) (image : Option String) : Option Document :=
  if k.any then some (.ofRoot (loginScreen k image))
  else image.map fun src => .ofRoot (imageCard src)

/-- Of a value only the flags and the first reference are looked at. -/
theorem keywordLogin_convert (raw : Json) :
    keywordLogin.convert raw = screenOf (.ofJson raw) raw.imageStrings.head? := by
  rw [← Json.imageReferences_eq]
  rfl

theorem screenOf_eq_none_iff {k : Keywords} {image : Option String} :
    screenOf k image = none ↔ k.any = false ∧ image = none := by
  cases flagged : k.any <;> simp [screenOf, flagged]

/-- The fields of a login screen are those that the flags ask for. -/
theorem map_role?_loginFields (k : Keywords) :
    (loginFields k).map Node.role? = k.roles.map some := by
  obtain ⟨email, password, action⟩ := k
  cases email <;> cases password <;> cases action <;> rfl

theorem imageSources_loginScreen (k : Keywords) (image : Option String) :
    (loginScreen k image).descendants.filterMap Node.imageSource? = image.toList := by
  obtain ⟨email, password, action⟩ := k
  cases email <;> cases password <;> cases action <;> cases image <;> rfl

theorem forms_loginScreen (k : Keywords) (image : Option String) :
    (loginScreen k image).descendants.filterMap Node.formFields? = [loginFields k] := by
  obtain ⟨email, password, action⟩ := k
  cases email <;> cases password <;> cases action <;> cases image <;> rfl

/-- A document is made of the flags and the first reference, unless there is no flag and no
reference. It shows the first reference and nothing else as its image, and has one form with the
fields of the flags if there are any, else it is a card. -/
theorem keywordLogin_spec (raw : Json) :
    (keywordLogin.convert raw = none ↔
      (Keywords.ofJson raw).any = false ∧ raw.imageStrings = []) ∧
    (∀ d, keywordLogin.convert raw = some d →
      d.nodes.filterMap Node.imageSource? = raw.imageStrings.head?.toList ∧
      ((Keywords.ofJson raw).any = true → ∃ fields, d.nodes.filterMap Node.formFields? = [fields] ∧
        fields.map Node.role? = (Keywords.ofJson raw).roles.map some) ∧
      ((Keywords.ofJson raw).any = false → d.root.type = .card)) ∧
    ∀ other, Keywords.ofJson other = Keywords.ofJson raw →
      other.imageStrings.head? = raw.imageStrings.head? →
      keywordLogin.convert other = keywordLogin.convert raw := by
  rw [keywordLogin_convert]
  refine ⟨?_, fun d converted => ?_, fun other flags first => ?_⟩
  · rw [screenOf_eq_none_iff, List.head?_eq_none_iff]
  · cases flagged : (Keywords.ofJson raw).any with
    | true =>
      rw [screenOf, if_pos flagged] at converted
      obtain rfl := Option.some_inj.1 converted
      refine ⟨imageSources_loginScreen _ _, fun _ => ⟨_, forms_loginScreen _ _, ?_⟩, ?_⟩
      · exact map_role?_loginFields _
      · rintro ⟨⟩
    | false =>
      rw [screenOf, if_neg (by rw [flagged]; decide)] at converted
      obtain ⟨src, first, rfl⟩ := Option.map_eq_some_iff.1 converted
      rw [first]
      refine ⟨rfl, ?_, fun _ => rfl⟩
      rintro ⟨⟩
  · rw [keywordLogin_convert, flags, first]

/-- Names are no references, but keywords : a picture deep inside is shown above a button, and a
picture alone on a card. -/
theorem button_below_nested_picture :
    let raw : Json := .object [("page", .array [.object [("avatar.png", .string "PHOTO.JPEG"),
      ("link", .string "https://x.org/y")]]), ("Login", .null)]
    let other : Json := .array [.string "PHOTO.JPEG", .string "entrar"]
    let d : Document := .ofRoot (loginScreen ⟨false, false, true⟩ (some "PHOTO.JPEG"))
    keywordLogin.convert raw = some d ∧ keywordLogin.convert other = some d ∧
      d.nodes.filterMap Node.imageSource? = ["PHOTO.JPEG"] ∧
      (∃ fields, d.nodes.filterMap Node.formFields? = [fields] ∧
        fields.map Node.role? = [some .action]) ∧
      ∃ card, keywordLogin.convert (.string "photo.png") = some card ∧ card.root.type = .card := by
  intro raw other d
  have flags : Keywords.ofJson raw = ⟨false, false, true⟩ := by decide +kernel
  have same_flags : Keywords.ofJson other = ⟨false, false, true⟩ := by decide +kernel
  have found : raw.imageStrings = ["PHOTO.JPEG", "https://x.org/y"] := by decide +kernel
  have same_first : other.imageStrings = ["PHOTO.JPEG"] := by decide +kernel
  have converted : keywordLogin.convert raw = some d := by
    rw [keywordLogin_convert, flags, found]
    rfl
  have no_flags : Keywords.ofJson (.string "photo.png") = ⟨false, false, false⟩ := by decide +kernel
  have alone : (Json.string "photo.png").imageStrings = ["photo.png"] := by decide +kernel
  have shown :
      keywordLogin.convert (.string "photo.png") = some (.ofRoot (imageCard "photo.png")) := by
    rw [keywordLogin_convert, no_flags, alone]
    rfl
  obtain ⟨-, made, alike⟩ := keywordLogin_spec raw
  obtain ⟨images, fields, -⟩ := made d converted
  refine ⟨converted, (alike other ?_ ?_).trans converted, ?_, ?_, _, shown, ?_⟩
  · rw [same_flags, flags]
  · rw [same_first, found]
    rfl
  · rw [images, found]
    rfl
  · rw [flags] at fields
    exact fields rfl
  · exact ((keywordLogin_spec (.string "photo.png")).2.1 _ shown).2.2 (by rw [no_flags]; rfl)

end Strategy

end Wireframe
