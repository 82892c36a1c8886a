import Wireframe.Proofs.Screen.Preview

/-!
# Placeholders

A preview has its placeholders at the outermost nodes that the validator finds fault with. Both
walks look at a node before its children, and both go on to the children only of a group : where
the preview stops at a placeholder the validator may report more, but only below
(`Element.placeholders_mark_issues`).
-/

namespace Wireframe

namespace Element

/-! ## All elements of a drawing -/

mutual

/-- A drawing has faults if it has a placeholder. -/
theorem hasFaults_iff : ∀ element : Element,
    element.hasFaults = true ↔ ∃ key p, placeholder key p ∈ element.descendants
  | leaf _ _ => by simp [hasFaults, descendants]
  | group _ _ children => by simp [hasFaults, descendants, anyFaults_iff children]
  | placeholder key p => by simp [hasFaults, descendants]

theorem anyFaults_iff : ∀ elements : List Element,
    anyFaults elements = true ↔ ∃ key p, placeholder key p ∈ descendantsOf elements
  | [] => by simp [anyFaults, descendantsOf]
  | element :: rest => by
    simp [anyFaults, descendantsOf, hasFaults_iff element, anyFaults_iff rest, exists_or]

end

variable {ids : Key → String}

/-- The elements of drawn items are those of each. -/
theorem mem_descendantsOf_ofItems {parent : Key} {depth : Nat} {element : Element} :
    ∀ {index : Nat} {items : List Json},
      element ∈ descendantsOf (ofItems ids parent depth index items) ↔
        ∃ (i : Nat) (hi : i < items.length),
          element ∈ (ofRaw ids (parent.child (index + i)) depth items[i]).descendants
  | _, [] => by simp [ofItems, descendantsOf]
  | index, item :: rest => by
    have others : element ∈ descendantsOf (ofItems ids parent depth (index + 1) rest) ↔ _ :=
      mem_descendantsOf_ofItems
    simp only [ofItems, descendantsOf, List.mem_append, others]
    constructor
    · rintro (first | ⟨i, hi, later⟩)
      · exact ⟨0, by simp, first⟩
      · refine ⟨i + 1, by simpa using hi, ?_⟩
        rwa [show index + (i + 1) = index + 1 + i by omega]
    · rintro ⟨_ | i, hi, mem⟩
      · exact .inl mem
      · refine .inr ⟨i, by simpa using hi, ?_⟩
        rwa [show index + 1 + i = index + (i + 1) by omega]

/-- Children that are no list are not drawn. -/
theorem ofChildren_of_unlisted {key : Key} {depth : Nat} {members : Members}
    (unlisted : ∀ items, ¬ ChildItems members items) :
    ofChildren ids key depth members = none := by
  rw [ofChildren_eq]
  cases present : members.present? "children" with
  | none => exact absurd (.unset present) (unlisted [])
  | some raw =>
    cases raw with
    | null => exact absurd rfl (Members.present?_eq_some.1 present).2
    | array items => exact absurd (.array present) (unlisted items)
    | _ => rfl

/-- A value that cannot be a node is drawn as a placeholder. -/
theorem ofRaw_of_not_node (ids : Key → String) (key : Key) (depth : Nat) (raw : Json)
    (not_node : defaultMaxDepth < depth ∨ ∀ members, raw ≠ .object members) :
    ∃ p, ofRaw ids key depth raw = placeholder key p := by
  by_cases deep : defaultMaxDepth < depth
  · exact ⟨_, by cases raw <;> exact if_pos deep⟩
  · cases raw with
    | object members => exact absurd rfl ((not_node.resolve_left deep) members)
    | _ => exact ⟨_, if_neg deep⟩

/-! ## Placeholders and issues -/

/-- Whether placeholders and issues tell of the same nodes : each placeholder is at the place of an
issue or one step above it, and each issue is at the place of a placeholder or below it. -/
structure FaultsAgree (elements : List Element) (issues : List Issue) : Prop where
  reported : ∀ key p, placeholder key p ∈ elements → ∃ issue ∈ issues, ∃ path : Path,
    path.text = key.text ∧ (issue.path = path ∨ ∃ name, issue.path = path.key name)
  shown : ∀ issue ∈ issues, ∃ key p, placeholder key p ∈ elements ∧
    ∃ path : Path, path.text = key.text ∧ path.segments <+: issue.path.segments

namespace FaultsAgree

/-- Where nothing is wrong nothing has to be shown. -/
theorem of_fine {elements : List Element} (fine : ∀ key p, placeholder key p ∉ elements) :
    FaultsAgree elements [] :=
  ⟨fun key p mem => absurd mem (fine key p), by simp⟩

/-- One placeholder tells of everything at its place and below. -/
theorem of_placeholder {path : Path} {key : Key} (p : Placeholder) {issues : List Issue}
    (isAt : path.IsAt key)
    (found : ∃ issue ∈ issues, issue.path = path ∨ ∃ name, issue.path = path.key name)
    (below : ∀ issue ∈ issues, path.segments <+: issue.path.segments) :
    FaultsAgree (placeholder key p).descendants issues where
  reported := by
    intro _ _ mem
    obtain ⟨⟩ := List.mem_singleton.1 mem
    obtain ⟨issue, mem, place⟩ := found
    exact ⟨issue, mem, path, isAt.text_eq, place⟩
  shown issue mem := ⟨key, p, List.mem_singleton_self _, path, isAt.text_eq, below issue mem⟩

/-- Only the placeholders matter, and which issues there are. -/
theorem congr {elements elements' : List Element} {issues issues' : List Issue}
    (agree : FaultsAgree elements issues)
    (placeholders : ∀ key p, placeholder key p ∈ elements' ↔ placeholder key p ∈ elements)
    (same : ∀ issue, issue ∈ issues' ↔ issue ∈ issues) : FaultsAgree elements' issues' where
  reported key p mem := by
    obtain ⟨issue, mem, place⟩ := agree.reported key p ((placeholders key p).1 mem)
    exact ⟨issue, (same issue).2 mem, place⟩
  shown issue mem := by
    obtain ⟨key, p, mem, place⟩ := agree.shown issue ((same issue).1 mem)
    exact ⟨key, p, (placeholders key p).2 mem, place⟩

/-- Items tell of their issues together if each of them does. -/
theorem of_items {options : ValidationOptions} {path : Path} {key : Key} {depth index : Nat}
    {items : List Json}
    (each : ∀ (i : Nat) (hi : i < items.length),
      FaultsAgree (ofRaw ids (key.child (index + i)) depth items[i]).descendants
        (Node.check options (path.index (index + i)) depth items[i]).issues) :
    FaultsAgree (descendantsOf (ofItems ids key depth index items))
      (Node.checkItems options path depth index items).issues where
  reported k p mem := by
    obtain ⟨i, hi, mem⟩ := mem_descendantsOf_ofItems.1 mem
    obtain ⟨issue, mem, place⟩ := (each i hi).reported k p mem
    exact ⟨issue, Node.mem_issues_checkItems.2 ⟨i, hi, mem⟩, place⟩
  shown issue mem := by
    obtain ⟨i, hi, mem⟩ := Node.mem_issues_checkItems.1 mem
    obtain ⟨k, p, mem, place⟩ := (each i hi).shown issue mem
    exact ⟨k, p, mem_descendantsOf_ofItems.2 ⟨i, hi, mem⟩, place⟩

end FaultsAgree

section Members

variable {options : ValidationOptions} {path : Path} {key : Key} {depth : Nat} {members : Members}

/-- A node that no type admits has an issue of its own, and is drawn as a placeholder. -/
theorem faultsAgree_of_refused (isAt : path.IsAt key) (p : Placeholder)
    (none_admits : ∀ type : NodeType, ¬ type.Admits members) {children : Checked (List Node)}
    (below : ∀ issue ∈ (Node.checkMembers options ⟨members, path⟩ children).issues,
      path.segments <+: issue.path.segments) :
    FaultsAgree (placeholder key p).descendants
      (Node.checkMembers options ⟨members, path⟩ children).issues := by
  have faulty : (Node.checkAlone options ⟨members, path⟩).issues ≠ [] := by
    intro fine
    obtain ⟨type, admits⟩ := Node.issues_checkAlone_eq_nil_iff.1 fine
    exact none_admits type admits
  obtain ⟨issue, mem⟩ := List.exists_mem_of_ne_nil _ faulty
  refine .of_placeholder p isAt ⟨issue, Node.mem_issues_checkMembers.2 (.inl mem), .inr ?_⟩ below
  exact Node.atFields_checkAlone _ issue mem

/-- A group whose children are no list has an issue there, and is drawn as a placeholder. -/
theorem faultsAgree_of_unlisted (isAt : path.IsAt key) (p : Placeholder) {type : NodeType}
    (admits : type.Admits members) (isGroup : type.isGroup = true) {fault : Fault}
    (below : ∀ issue ∈ (Node.checkMembers options ⟨members, path⟩
      (.report (path.key "children") fault [])).issues, path.segments <+: issue.path.segments) :
    FaultsAgree (placeholder key p).descendants
      (Node.checkMembers options ⟨members, path⟩ (.report (path.key "children") fault [])).issues := by
  refine .of_placeholder p isAt ⟨⟨path.key "children", fault⟩, ?_, .inr ⟨_, rfl⟩⟩ below
  rw [Node.mem_issues_checkMembers_of_admits admits]
  exact ⟨isGroup, List.mem_singleton_self _⟩

/-- A group whose children are a list tells of the issues of its children. -/
theorem faultsAgree_of_listed {g : Group} (admits : g.type.Admits members) {items : List Json}
    (each : ∀ (i : Nat) (hi : i < items.length),
      FaultsAgree (ofRaw ids (key.child i) (depth + 1) items[i]).descendants
        (Node.check options ((path.key "children").index i) (depth + 1) items[i]).issues) :
    FaultsAgree (group key g (ofItems ids key (depth + 1) 0 items)).descendants
      (Node.checkMembers options ⟨members, path⟩
        (Node.checkItems options (path.key "children") (depth + 1) 0 items)).issues := by
  have together : FaultsAgree (descendantsOf (ofItems ids key (depth + 1) 0 items))
      (Node.checkItems options (path.key "children") (depth + 1) 0 items).issues :=
    .of_items fun i hi => by
      rw [Nat.zero_add]
      exact each i hi
  refine together.congr (by simp [descendants]) fun issue => ?_
  rw [Node.mem_issues_checkMembers_of_admits admits]
  exact and_iff_right g.isGroup_type

/-- What is drawn for members tells of the issues of their check, if it does for each child. -/
theorem faultsAgree_ofMembers (isAt : path.IsAt key)
    (below : ∀ issue ∈ (Node.checkMembers options ⟨members, path⟩
      (Node.checkChildren options path depth members)).issues,
        path.segments <+: issue.path.segments)
    (each : ∀ items, ChildItems members items → ∀ (i : Nat) (hi : i < items.length),
      FaultsAgree (ofRaw ids (key.child i) (depth + 1) items[i]).descendants
        (Node.check options ((path.key "children").index i) (depth + 1) items[i]).issues) :
    FaultsAgree (ofMembers ids key members (ofChildren ids key depth members)).descendants
      (Node.checkMembers options ⟨members, path⟩
        (Node.checkChildren options path depth members)).issues := by
  have spec := ofMembers_spec ids key members (ofChildren ids key depth members)
  generalize ofMembers ids key members (ofChildren ids key depth members) = element at spec
  generalize drawn_eq : ofChildren ids key depth members = drawn at spec
  cases spec with
  | refused _ p none_admits => exact faultsAgree_of_refused isAt p none_admits below
  | @leaf _ l shown =>
    rw [Node.issues_checkMembers_of_leaf (admits_alone.1 shown.admits) l.isGroup_type]
    exact .of_fine (by simp [descendants])
  | @group drawn g shown =>
    rcases Node.checkChildren_cases options path depth members with
      ⟨items, children, checked⟩ | ⟨unlisted, -⟩
    · rw [ofChildren_of_items children] at drawn_eq
      obtain rfl := Option.some.inj drawn_eq
      rw [checked]
      exact faultsAgree_of_listed (admits_alone.1 shown.admits) (each items children)
    · rw [ofChildren_of_unlisted unlisted] at drawn_eq
      cases drawn_eq
  | @unlisted p g shown =>
    rcases Node.checkChildren_cases options path depth members with
      ⟨items, children, -⟩ | ⟨-, fault, checked⟩
    · rw [ofChildren_of_items children] at drawn_eq
      cases drawn_eq
    · rw [checked] at below ⊢
      exact faultsAgree_of_unlisted isAt p (admits_alone.1 shown.admits) g.isGroup_type below

end Members

/-- The placeholders of a drawn node tell of the issues of that node. -/
theorem faultsAgree_ofRaw {options : ValidationOptions}
    (bound : options.maxDepth = defaultMaxDepth) (raw : Json) :
    ∀ {path : Path} {key : Key} {depth : Nat}, path.IsAt key →
      FaultsAgree (ofRaw ids key depth raw).descendants
        (Node.check options path depth raw).issues := by
  induction raw using Json.childrenInduction with
  | step raw ih =>
    intro path key depth isAt
    have below : ∀ issue ∈ (Node.check options path depth raw).issues,
        path.segments <+: issue.path.segments :=
      fun issue mem => Node.prefix_of_mem_issues raw mem
    by_cases node : depth ≤ options.maxDepth ∧ ∃ members, raw = .object members
    · obtain ⟨within, members, rfl⟩ := node
      rw [Node.check_object within] at below ⊢
      rw [ofRaw_object (bound ▸ within)]
      refine faultsAgree_ofMembers isAt below fun items children i hi => ?_
      cases children with
      | unset => simp at hi
      | array present => exact ih members items rfl present _ (List.getElem_mem hi) (isAt.child i)
    · have not_node : options.maxDepth < depth ∨ ∀ members, raw ≠ .object members := by
        rw [not_and_or, not_exists, Nat.not_le] at node
        exact node
      obtain ⟨p, drawn⟩ := ofRaw_of_not_node ids key depth raw (bound ▸ not_node)
      rw [drawn]
      refine .of_placeholder p isAt ?_ below
      rw [Node.issues_check_of_not_node not_node]
      exact ⟨_, List.mem_singleton_self _, .inl rfl⟩

end Element

/-! ## Documents -/

namespace Document

/-- What the validator finds wrong with the root of a raw document. -/
def rootIssues (options : ValidationOptions) (raw : Json) : List Issue :=
  match validate options raw with
  | .ok _ => []
  | .error issues => issues.filter fun issue => issue.path.segments.head? = some (.key "root")

variable {options : ValidationOptions} {members : Members}

/-- What is wrong with the root is what its check finds. -/
theorem rootIssues_object :
    rootIssues options (.object members) = (checkRoot options ⟨members, .top⟩).issues := by
  have filtered : rootIssues options (.object members) =
      (check options (.object members)).issues.filter
        fun issue => issue.path.segments.head? = some (.key "root") := by
    unfold rootIssues validate Checked.result
    split
    · next ok =>
      split at ok
      · next fine => rw [fine, List.filter_nil]
      · cases ok
    · next failed =>
      split at failed
      · cases failed
      · cases failed
        rfl
  have issues_eq : (check options (.object members)).issues =
      (checkVersion ⟨members, .top⟩).issues ++ ((Palette.checkField ⟨members, .top⟩).issues ++
        (checkRoot options ⟨members, .top⟩).issues) := by
    simp [check]
  rw [filtered, issues_eq, List.filter_append, List.filter_append, List.filter_eq_nil_iff.2,
    List.filter_eq_nil_iff.2, List.filter_eq_self.2, List.nil_append, List.nil_append]
  · intro issue mem
    obtain ⟨rest, segments_eq⟩ := prefix_of_mem_checkRoot mem
    simp [← segments_eq]
  · intro issue mem
    obtain ⟨rest, segments_eq⟩ := prefix_of_mem_palette mem
    simp [← segments_eq]
  · intro issue mem
    simp [path_of_mem_checkVersion mem, Path.top, Path.key]

end Document

namespace Element

/-- The placeholders of a drawn document tell of what is wrong with its root. -/
theorem faultsAgree_ofJson {options : ValidationOptions}
    (bound : options.maxDepth = defaultMaxDepth) (ids : Key → String) {members : Members}
    {root : Json} (root_eq : members.get? "root" = some root) :
    FaultsAgree (ofJson ids (.object members)).descendants
      (Document.rootIssues options (.object members)) := by
  rw [ofJson_of_root ids root_eq, Document.rootIssues_object, Document.checkRoot]
  by_cases null : root = .null
  · have absent : Fields.get? ⟨members, .top⟩ "root" = none := by
      rw [Fields.get?, Members.present?, root_eq, null]
    obtain ⟨p, drawn⟩ := ofRaw_of_not_node ids .root 0 root
      (.inr fun members object => by simp [null] at object)
    rw [drawn, absent]
    refine .of_placeholder p Path.isAt_root ⟨_, List.mem_singleton_self _, .inl rfl⟩ ?_
    intro issue mem
    obtain rfl := List.mem_singleton.1 mem
    exact List.prefix_refl _
  · have present : Fields.get? ⟨members, .top⟩ "root" = some root :=
      Members.present?_eq_some.2 ⟨root_eq, null⟩
    rw [present]
    exact faultsAgree_ofRaw bound root Path.isAt_root

/-- A preview has its placeholders at the outermost nodes that the validator finds fault with. For
each placeholder there is an issue at its key or at a field of the node there, and for each issue
of the root a placeholder whose key is a prefix of the path of the issue, step by step. So a
preview has no faults exactly if the validator finds nothing wrong with the root. -/
theorem placeholders_mark_issues (ids : Key → String) (source : Path → String)
    {members : Members} {root : Json} (root_eq : members.get? "root" = some root) :
    let element := ofJson ids (.object members)
    let issues := Document.rootIssues ⟨source, defaultMaxDepth⟩ (.object members)
    (∀ key p, placeholder key p ∈ element.descendants → ∃ issue ∈ issues, ∃ path : Path,
      path.text = key.text ∧ (issue.path = path ∨ ∃ name, issue.path = path.key name)) ∧
    (∀ issue ∈ issues, ∃ key p, placeholder key p ∈ element.descendants ∧
      ∃ path : Path, path.text = key.text ∧ path.segments <+: issue.path.segments) ∧
    (element.hasFaults = false ↔ issues = []) := by
  intro element issues
  have agree : FaultsAgree element.descendants issues := faultsAgree_ofJson rfl ids root_eq
  refine ⟨agree.reported, agree.shown, ?_⟩
  rw [← Bool.not_eq_true, hasFaults_iff, List.eq_nil_iff_forall_not_mem]
  constructor
  · intro clean issue mem
    obtain ⟨key, p, mem, -⟩ := agree.shown issue mem
    exact clean ⟨key, p, mem⟩
  · rintro fine ⟨key, p, mem⟩
    obtain ⟨issue, mem, -⟩ := agree.reported key p mem
    exact fine issue mem

/-- In a container with an unknown type and a text without content the missing content is told of
by a placeholder. -/
theorem placeholder_of_missing_content :
    let faulty : List Json := [.object [("type", .string "slider")],
      .object [("type", .string "text")]]
    let root : Json := .object [("type", .string "container"), ("children", .array faulty)]
    let element := ofJson (fun key => key.text) (.object [("root", root)])
    let missing : Issue := ⟨⟨[.key "root", .key "children", .index 1, .key "content"]⟩, .missing⟩
    Members.get? [("root", root)] "root" = some root ∧
      missing ∈ Document.rootIssues .structural (.object [("root", root)]) ∧
      (∃ key p, placeholder key p ∈ element.descendants ∧
        ∃ path : Path, path.text = key.text ∧ path.segments <+: missing.path.segments) ∧
      element.hasFaults = true := by
  intro faulty root element missing
  have there : Members.get? [("root", root)] "root" = some root := rfl
  have found : missing ∈ Document.rootIssues .structural (.object [("root", root)]) := by decide
  obtain ⟨-, shown, clean⟩ := placeholders_mark_issues (fun key => key.text) Path.nodeId there
  refine ⟨there, found, shown missing found, ?_⟩
  rw [← Bool.not_eq_false, clean]
  exact List.ne_nil_of_mem found

end Element

end Wireframe
