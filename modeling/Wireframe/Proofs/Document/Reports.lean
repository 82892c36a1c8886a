import Mathlib.Data.List.Basic
import Wireframe.Proofs.Document.Issues

/-!
# Reports

A raw value that is refused is reported of truly : there is an issue, each issue holds where its
path leads, and none is at or below the path of another (`Document.refusals_are_reported`). So no
fault is told of twice, and below a node that is nested too deep nothing is told of at all.

Both inductions follow the children of nodes. What the fields of a node report and what its children
report is apart because the fields have other names than the member with the children.
-/

namespace Wireframe

/-! ## Paths -/

namespace Path

/-- Paths neither of which is a part of the other. -/
def Apart (p q : Path) : Prop :=
  ¬ p.segments <+: q.segments ∧ ¬ q.segments <+: p.segments

variable {p q p' q' : Path}

theorem Apart.symm (apart : p.Apart q) : q.Apart p :=
  ⟨apart.2, apart.1⟩

/-- What lies below paths that are apart is apart. -/
theorem Apart.below (apart : p.Apart q) (below : p.segments <+: p'.segments)
    (below' : q.segments <+: q'.segments) : p'.Apart q' := by
  constructor
  · intro isPart
    exact (List.prefix_or_prefix_of_prefix (below.trans isPart) below').elim apart.1 apart.2
  · intro isPart
    exact (List.prefix_or_prefix_of_prefix below (below'.trans isPart)).elim apart.1 apart.2

theorem apart_of_step_ne {a b : Segment} (differ : a ≠ b) :
    (Path.mk (p.segments ++ [a])).Apart ⟨p.segments ++ [b]⟩ := by
  have one_way : ∀ {a b : Segment}, a ≠ b → ¬ p.segments ++ [a] <+: p.segments ++ [b] := by
    intro a b differ isPart
    rw [List.prefix_append_right_inj] at isPart
    exact differ (List.cons_prefix_cons.1 isPart).1
  exact ⟨one_way differ, one_way differ.symm⟩

theorem apart_key {name other : String} (differ : name ≠ other) : (p.key name).Apart (p.key other) :=
  apart_of_step_ne fun same => differ (Segment.key.inj same)

theorem apart_index {i j : Nat} (differ : i ≠ j) : (p.index i).Apart (p.index j) :=
  apart_of_step_ne fun same => differ (Segment.index.inj same)

theorem prefix_index (p : Path) (i : Nat) : p.segments <+: (p.index i).segments :=
  List.prefix_append _ _

end Path

/-- Issues neither of which is at or below the path of the other. -/
def Issue.Apart (a b : Issue) : Prop :=
  a.path.Apart b.path

instance : Std.Symm Issue.Apart :=
  ⟨fun _ _ => Path.Apart.symm⟩

/-- Whether no issue is at or below the path of another. -/
def AreApart (issues : List Issue) : Prop :=
  issues.Pairwise Issue.Apart

namespace AreApart

variable {issues others : List Issue}

theorem nil : AreApart [] :=
  List.Pairwise.nil

theorem singleton (issue : Issue) : AreApart [issue] :=
  List.pairwise_singleton _ _

theorem append (first : AreApart issues) (second : AreApart others)
    (between : ∀ a ∈ issues, ∀ b ∈ others, a.Apart b) : AreApart (issues ++ others) :=
  List.pairwise_append.2 ⟨first, second, between⟩

/-- The order does not matter. -/
theorem perm (apart : AreApart issues) (same : issues.Perm others) : AreApart others :=
  (same.pairwise_iff Path.Apart.symm).1 apart

/-- An issue at or below the path of another is that other one. -/
theorem eq_of_prefix (apart : AreApart issues) {a b : Issue} (ha : a ∈ issues) (hb : b ∈ issues)
    (below : a.path.segments <+: b.path.segments) : b = a := by
  by_contra differ
  exact (List.Pairwise.forall apart ha hb (Ne.symm differ)).1 below

theorem nodup_paths (apart : AreApart issues) : (issues.map Issue.path).Nodup := by
  rw [List.Nodup, List.pairwise_map]
  refine apart.imp ?_
  intro a b apart same
  exact apart.1 (same ▸ List.prefix_refl _)

end AreApart

/-! ## Issues of fields -/

namespace Fields

variable {f : Fields} {faults : List (String × Option Fault)} {issue : Issue}

theorem mem_issuesOf : issue ∈ f.issuesOf faults ↔
    ∃ name fault, (name, some fault) ∈ faults ∧ issue = ⟨f.place name, fault⟩ := by
  simp only [issuesOf, issueAt, List.mem_flatMap, Option.mem_toList, Option.map_eq_some_iff]
  constructor
  · rintro ⟨⟨name, -⟩, mem, fault, rfl, rfl⟩
    exact ⟨name, fault, mem, rfl⟩
  · rintro ⟨name, fault, mem, rfl⟩
    exact ⟨_, mem, fault, rfl, rfl⟩

/-- Issues of different fields are apart. -/
theorem areApart_issuesOf (nodup : (faults.map Prod.fst).Nodup) : AreApart (f.issuesOf faults) := by
  induction faults with
  | nil => exact .nil
  | cons entry rest ih =>
    obtain ⟨name, fault?⟩ := entry
    rw [List.map_cons, List.nodup_cons] at nodup
    refine AreApart.append ?_ (ih nodup.2) ?_
    · cases fault?
      · exact .nil
      · exact .singleton _
    · intro a ha b hb
      obtain ⟨fault, -, rfl⟩ : ∃ fault, fault? = some fault ∧ ⟨f.place name, fault⟩ = a := by
        simpa [issueAt] using ha
      obtain ⟨name, fault, mem, rfl⟩ := mem_issuesOf.1 hb
      refine Path.apart_key ?_
      rintro rfl
      exact nodup.1 (List.mem_map.2 ⟨_, mem, rfl⟩)

end Fields

/-! ## Issues of nodes -/

namespace Node

variable {options : ValidationOptions} {path : Path} {depth : Nat}

/-- Issues of items are apart if those of each item are. -/
theorem areApart_checkItems {items : List Json}
    (each : ∀ item ∈ items, ∀ path, AreApart (check options path depth item).issues) :
    ∀ index, AreApart (checkItems options path depth index items).issues := by
  induction items with
  | nil => exact fun _ => .nil
  | cons item rest ih =>
    intro index
    have others := ih (fun item mem => each item (List.mem_cons_of_mem _ mem)) (index + 1)
    rw [checkItems, Checked.issues_bind, Checked.issues_bind, Checked.issues_pure, List.append_nil]
    refine AreApart.append (each item List.mem_cons_self _) others fun a ha b hb => ?_
    obtain ⟨i, hi, hb⟩ := mem_issues_checkItems.1 hb
    have differ : index ≠ index + 1 + i := by omega
    exact (Path.apart_index differ).below (prefix_of_mem_issues _ ha) (prefix_of_mem_issues _ hb)

/-- What is reported of children lies at or below the member that has them. -/
theorem prefix_of_mem_checkChildren {members : Members} {issue : Issue}
    (mem : issue ∈ (checkChildren options path depth members).issues) :
    (path.key "children").segments <+: issue.path.segments := by
  rcases checkChildren_cases options path depth members with ⟨items, -, checked⟩ | ⟨-, fault, checked⟩
  · rw [checked] at mem
    obtain ⟨i, hi, mem⟩ := mem_issues_checkItems.1 mem
    exact (Path.prefix_index _ _).trans (prefix_of_mem_issues _ mem)
  · rw [checked] at mem
    obtain rfl := List.mem_singleton.1 mem
    exact List.prefix_refl _

theorem areApart_checkChildren {members : Members}
    (each : ∀ items, members.present? "children" = some (.array items) → ∀ item ∈ items,
      ∀ path depth, AreApart (check options path depth item).issues) :
    AreApart (checkChildren options path depth members).issues := by
  rcases checkChildren_cases options path depth members with
    ⟨items, children, checked⟩ | ⟨-, fault, checked⟩
  · rw [checked]
    cases children with
    | unset => exact .nil
    | array present =>
      exact areApart_checkItems (fun item mem path => each items present item mem path _) 0
  · rw [checked]
    exact .singleton _

/-- The issues of a raw node are apart. -/
theorem areApart_check (raw : Json) : ∀ path depth, AreApart (check options path depth raw).issues := by
  induction raw using Json.childrenInduction with
  | step raw ih =>
    intro path depth
    by_cases node : depth ≤ options.maxDepth ∧ ∃ members, raw = .object members
    · obtain ⟨within, members, rfl⟩ := node
      obtain ⟨before, behind, own, all⟩ := issues_checkMembers options ⟨members, path⟩
      have nodup := List.nodup_cons.1 (Members.nodup_faults members)
      have ownApart : AreApart (before ++ behind) := own ▸ Fields.areApart_issuesOf nodup.2
      rw [check_object within]
      by_cases nameGroup : Members.NameGroup members
      · rw [(all _).1 nameGroup]
        -- the issues of the children stand apart from those of the fields wherever they come
        have together : AreApart (before ++ behind ++
            (checkChildren options path depth members).issues) := by
          refine ownApart.append (areApart_checkChildren fun items => ih members items rfl) ?_
          intro a ha b hb
          rw [← own] at ha
          obtain ⟨name, fault, mem, rfl⟩ := Fields.mem_issuesOf.1 ha
          have differ : name ≠ "children" := by
            rintro rfl
            exact nodup.1 (List.mem_map.2 ⟨_, mem, rfl⟩)
          exact (Path.apart_key differ).below (List.prefix_refl _) (prefix_of_mem_checkChildren hb)
        refine together.perm ?_
        rw [List.append_assoc, List.append_assoc]
        exact List.perm_append_comm.append_left before
      · rw [(all _).2 nameGroup]
        exact ownApart
    · have not_node : options.maxDepth < depth ∨ ∀ members, raw ≠ .object members := by
        rw [not_and_or, not_exists, Nat.not_le] at node
        exact node
      rw [issues_check_of_not_node not_node]
      exact .singleton _

/-! ## Truth of issues -/

variable {top : Slot} {whole : Json}

/-- What is reported of children that are no list holds there. -/
theorem holds_of_mem_checkChildren {members : Members}
    (leads : Leads top whole path (.node depth) (.object members)) (nameGroup : members.NameGroup)
    (each : ∀ items, members.present? "children" = some (.array items) → ∀ item ∈ items,
      ∀ path, Leads top whole path (.node (depth + 1)) item →
        ∀ issue ∈ (check options path (depth + 1) item).issues,
          issue.fault.Holds options.maxDepth top whole issue.path) :
    ∀ issue ∈ (checkChildren options path depth members).issues,
      issue.fault.Holds options.maxDepth top whole issue.path := by
  intro issue mem
  rw [checkChildren_eq] at mem
  cases present : members.present? "children" with
  | none => simp [present] at mem
  | some value =>
    rw [present] at mem
    have there : Leads top whole (path.key "children") (.children depth) value :=
      leads.present (.children nameGroup) present
    by_cases list : ∃ items, value = .array items
    · obtain ⟨items, rfl⟩ := list
      obtain ⟨i, hi, mem⟩ := mem_issues_checkItems.1 mem
      rw [Nat.zero_add] at mem
      exact each items present _ (List.getElem_mem hi) _
        (there.item (List.getElem?_eq_getElem hi)) issue mem
    · have not_null := (Members.present?_eq_some.1 present).2
      obtain rfl : issue = ⟨path.key "children", .wrongType .array value.type⟩ := by
        cases value with
        | null => exact absurd rfl not_null
        | array items => exact absurd ⟨items, rfl⟩ list
        | _ => exact List.mem_singleton.1 mem
      refine .of_type_ne there not_null fun same => ?_
      cases value <;> first | exact list ⟨_, rfl⟩ | cases same

/-- Every issue of a raw node holds, wherever the node stands in the whole. -/
theorem holds_of_mem_issues (raw : Json) : ∀ {path : Path} {depth : Nat},
    Leads top whole path (.node depth) raw → depth ≤ options.maxDepth + 1 →
      ∀ issue ∈ (check options path depth raw).issues,
        issue.fault.Holds options.maxDepth top whole issue.path := by
  induction raw using Json.childrenInduction with
  | step raw ih =>
    intro path depth leads near issue mem
    by_cases node : depth ≤ options.maxDepth ∧ ∃ members, raw = .object members
    · obtain ⟨within, members, rfl⟩ := node
      obtain ⟨before, behind, own, all⟩ := issues_checkMembers options ⟨members, path⟩
      have ownHold : ∀ issue ∈ before ++ behind,
          issue.fault.Holds options.maxDepth top whole issue.path := by
        intro issue mem
        rw [← own] at mem
        obtain ⟨name, fault, isFault, rfl⟩ := Fields.mem_issuesOf.1 mem
        exact Members.holds_of_mem_faults leads isFault
      rw [check_object within] at mem
      by_cases nameGroup : Members.NameGroup members
      · have below := holds_of_mem_checkChildren leads nameGroup fun items present item isItem _ leads =>
          ih members items rfl present item isItem leads (by omega)
        rw [(all _).1 nameGroup, List.mem_append, List.mem_append] at mem
        rcases mem with (mem | mem) | mem
        · exact ownHold issue (List.mem_append_left _ mem)
        · exact below issue mem
        · exact ownHold issue (List.mem_append_right _ mem)
      · rw [(all _).2 nameGroup] at mem
        exact ownHold issue mem
    · have not_node : options.maxDepth < depth ∨ ∀ members, raw ≠ .object members := by
        rw [not_and_or, not_exists, Nat.not_le] at node
        exact node
      rw [issues_check_of_not_node not_node] at mem
      obtain rfl := List.mem_singleton.1 mem
      by_cases deep : options.maxDepth < depth
      · obtain rfl : depth = options.maxDepth + 1 := by omega
        simpa [deep] using Fault.Holds.tooDeep leads
      · have other : raw.type ≠ .object := by
          cases raw with
          | object members => exact absurd rfl (not_node.resolve_left deep members)
          | _ => nofun
        simp only [if_neg deep]
        refine .wrongType leads ?_
        rintro (same | ⟨required, -⟩)
        · exact other same
        · cases required

/-! ## Children -/

/-- What is wrong with the fields of a node does not depend on its children. -/
theorem faults_without_children (members : Members) :
    Members.faults (members.without "children") = members.faults := by
  have same : ∀ name, name ≠ "children" →
      Members.present? (members.without "children") name = members.present? name := by
    intro name differ
    simp only [Members.present?, Members.get?_without, if_neg differ]
  have sameFault : ∀ rule : FieldRule, rule.name ≠ "children" →
      rule.fault? (members.without "children") = rule.fault? members := by
    intro rule differ
    simp only [FieldRule.fault?, same rule.name differ]
  unfold Members.faults
  rw [same "type" (by decide), sameFault (idRule "") (by decide)]
  have fields : ∀ type : NodeType,
      (type.schema.map fun rule => (rule.name, rule.fault? (members.without "children"))) =
        type.schema.map fun rule => (rule.name, rule.fault? members) := by
    intro type
    refine List.map_congr_left fun rule mem => ?_
    have differ : rule.name ≠ "children" := by
      rintro named
      have nodup := List.nodup_cons.1 (Members.nodup_names type)
      exact nodup.1 (List.mem_cons_of_mem _ (named ▸ List.mem_map_of_mem mem))
    rw [sameFault rule differ]
  simp only [fields]

/-- The issues of a group are its own, and in between those of its children in their order, each
checked alone at its path and depth. -/
theorem issues_group {members : Members} {items : List Json} (within : depth ≤ options.maxDepth)
    (nameGroup : members.NameGroup) (children : ChildItems members items) :
    ∃ before behind,
      (check options path depth (.object (members.without "children"))).issues = before ++ behind ∧
      (check options path depth (.object members)).issues = before ++
        (items.zipIdx.flatMap fun entry =>
          (check options ((path.key "children").index entry.2) (depth + 1) entry.1).issues) ++
        behind := by
  obtain ⟨before, behind, own, all⟩ := issues_checkMembers options ⟨members, path⟩
  refine ⟨before, behind, ?_, ?_⟩
  · have childless : (members.without "children").present? "children" = none := by
      simp [Members.present?, Members.get?_without]
    rw [check_object within, checkChildren_eq, childless, issues_checkMembers_of_childless,
      faults_without_children, ← own]
    rfl
  · have checked : (checkChildren options path depth members).issues =
        items.zipIdx.flatMap fun entry =>
          (check options ((path.key "children").index entry.2) (depth + 1) entry.1).issues := by
      rw [checkChildren_eq]
      cases children with
      | unset absent =>
        rw [absent]
        rfl
      | array present =>
        rw [present]
        exact issues_checkItems options _ _ 0 items
    rw [check_object within, (all _).1 nameGroup, checked]

end Node

/-! ## Documents -/

namespace Palette

theorem issues_check (f : Fields) : (check f).issues =
    f.issuesOf (schema.map fun rule => (rule.name, rule.fault? f.members)) := by
  rw [Fields.issuesOf_rules]
  simp [check, schema]

theorem nodup_names : (schema.map FieldRule.name).Nodup := by
  decide

theorem areApart_check (f : Fields) : AreApart (check f).issues := by
  rw [issues_check]
  exact Fields.areApart_issuesOf (by simpa [Function.comp_def] using nodup_names)

theorem areApart_checkField (f : Fields) : AreApart (checkField f).issues := by
  unfold checkField
  split
  · exact .nil
  · rw [Checked.issues_bind, Checked.issues_pure, List.append_nil]
    exact areApart_check _
  · exact .singleton _

variable {bound : Nat} {members : Members}

theorem holds_of_mem_check {whole : Json} {top : Slot} {path : Path}
    (leads : Leads top whole path .palette (.object members)) :
    ∀ issue ∈ (check ⟨members, path⟩).issues, issue.fault.Holds bound top whole issue.path := by
  intro issue mem
  rw [issues_check] at mem
  obtain ⟨name, fault, isFault, rfl⟩ := Fields.mem_issuesOf.1 mem
  obtain ⟨rule, isRule, entry⟩ := List.mem_map.1 isFault
  obtain ⟨rfl, faulty⟩ := Prod.mk.inj entry
  exact FieldRule.holds_of_fault? leads (.colour isRule) faulty

theorem holds_of_mem_checkField :
    ∀ issue ∈ (checkField ⟨members, .top⟩).issues,
      issue.fault.Holds bound .document (.object members) issue.path := by
  intro issue mem
  unfold checkField at mem
  split at mem
  case h_1 => nomatch mem
  case h_2 colours present =>
    rw [Checked.issues_bind, Checked.issues_pure, List.append_nil] at mem
    exact holds_of_mem_check (Leads.top.present .palette present) issue mem
  case h_3 value other present =>
    obtain rfl := List.mem_singleton.1 mem
    have there : Leads .document (.object members) (Path.top.key "palette") .palette value :=
      Leads.top.present .palette present
    refine .of_type_ne there (Members.present?_eq_some.1 present).2 fun same => ?_
    cases value <;> first | exact other _ rfl | cases same

end Palette

namespace Document

variable {options : ValidationOptions} {members : Members}

theorem areApart_checkVersion (f : Fields) : AreApart (checkVersion f).issues := by
  unfold checkVersion
  split
  · exact .singleton _
  · split
    · exact .nil
    · exact .singleton _
  · exact .singleton _

theorem holds_of_mem_checkVersion {bound : Nat} :
    ∀ issue ∈ (checkVersion ⟨members, .top⟩).issues,
      issue.fault.Holds bound .document (.object members) issue.path := by
  intro issue mem
  unfold checkVersion at mem
  split at mem
  case h_1 absent =>
    obtain rfl := List.mem_singleton.1 mem
    exact .missing .top .version rfl absent
  case h_2 version present =>
    split at mem
    case isTrue => nomatch mem
    case isFalse other =>
      obtain rfl := List.mem_singleton.1 mem
      refine .versionMismatch (Leads.top.present .version present) nofun ?_
      rintro ⟨⟩
      exact other rfl
  case h_3 value other present =>
    obtain rfl := List.mem_singleton.1 mem
    exact .versionMismatch (Leads.top.present .version present)
      (Members.present?_eq_some.1 present).2 (other _)

theorem areApart_checkRoot (f : Fields) : AreApart (checkRoot options f).issues := by
  unfold checkRoot
  split
  · exact .singleton _
  · exact Node.areApart_check _ _ _

theorem holds_of_mem_checkRoot :
    ∀ issue ∈ (checkRoot options ⟨members, .top⟩).issues,
      issue.fault.Holds options.maxDepth .document (.object members) issue.path := by
  intro issue mem
  unfold checkRoot at mem
  split at mem
  case h_1 absent =>
    obtain rfl := List.mem_singleton.1 mem
    exact .missing .top .root rfl absent
  case h_2 root present =>
    exact Node.holds_of_mem_issues root (Leads.top.present .root present) (Nat.zero_le _) issue mem

/-- A raw document reports of its version, then of its palette and then of its root. -/
theorem issues_check_object : (check options (.object members)).issues =
    (checkVersion ⟨members, .top⟩).issues ++ (Palette.checkField ⟨members, .top⟩).issues ++
      (checkRoot options ⟨members, .top⟩).issues := by
  simp [check]

/-- The issues of a raw document are apart. -/
theorem areApart_check (options : ValidationOptions) (raw : Json) :
    AreApart (check options raw).issues := by
  cases raw with
  | object members =>
    have parts : ∀ {name other : String}, name ≠ other →
        (Path.top.key name).Apart (Path.top.key other) := Path.apart_key
    rw [issues_check_object]
    refine ((areApart_checkVersion _).append (Palette.areApart_checkField _) ?_).append
      (areApart_checkRoot _) ?_
    · intro a ha b hb
      rw [Issue.Apart, path_of_mem_checkVersion ha]
      exact (parts (by decide)).below (List.prefix_refl _) (prefix_of_mem_palette hb)
    · intro a ha b hb
      have below := prefix_of_mem_checkRoot hb
      rcases List.mem_append.1 ha with ha | ha
      · rw [Issue.Apart, path_of_mem_checkVersion ha]
        exact (parts (by decide)).below (List.prefix_refl _) below
      · exact (parts (by decide)).below (prefix_of_mem_palette ha) below
  | _ => exact .singleton _

/-- Every issue of a raw document holds. -/
theorem holds_of_mem_check (options : ValidationOptions) (raw : Json) :
    ∀ issue ∈ (check options raw).issues,
      issue.fault.Holds options.maxDepth .document raw issue.path := by
  intro issue mem
  cases raw with
  | object members =>
    rw [issues_check_object, List.mem_append, List.mem_append] at mem
    rcases mem with (mem | mem) | mem
    · exact holds_of_mem_checkVersion issue mem
    · exact Palette.holds_of_mem_checkField issue mem
    · exact holds_of_mem_checkRoot issue mem
  | _ =>
    obtain rfl := List.mem_singleton.1 mem
    refine .wrongType .top ?_
    rintro (⟨⟨⟩⟩ | ⟨⟨⟩, -⟩)

/-- A raw document of which nothing is reported comes out as a document. -/
theorem exists_of_outcome_check {raw : Json} {o : Option Document}
    (come_out : (check options raw).outcome = some o) : ∃ d, o = some d := by
  cases raw with
  | object members =>
    obtain ⟨-, palette, -, root, root_eq, rfl⟩ := outcome_check_iff.1 come_out
    unfold checkRoot at root_eq
    split at root_eq
    · cases root_eq
    · obtain ⟨node, rfl, -⟩ := Node.outcome_check _ root_eq
      exact ⟨_, rfl⟩
  | _ => cases come_out

end Document

/-! ## Refusals -/

/-- What holds of the issues for which a raw value is refused. There are some, each is true of what
its path leads to, and none is at or below the path of another. -/
structure Report (bound : Nat) (top : Slot) (raw : Json) (issues : List Issue) : Prop where
  ne_nil : issues ≠ []
  holds : ∀ issue ∈ issues, issue.fault.Holds bound top raw issue.path
  nodup : (issues.map Issue.path).Nodup
  nothing_below : ∀ issue ∈ issues, ∀ other ∈ issues,
    issue.path.segments <+: other.path.segments → other = issue

/-- The issues for which a check gives no result are all that it found, and there are some if the
check comes out with a value or not at all. -/
theorem Checked.issues_of_result {α : Type} {c : Checked (Option α)} {issues : List Issue}
    (comes_out : ∀ o, c.outcome = some o → ∃ a, o = some a) (refused : c.result = .error issues) :
    c.issues = issues ∧ issues ≠ [] := by
  have all : c.issues = issues := by
    unfold result at refused
    split at refused
    · cases refused
    · exact Except.error.inj refused
  refine ⟨all, ?_⟩
  rintro rfl
  have out : c.outcome = some c.value := if_pos all
  obtain ⟨a, value⟩ := comes_out _ out
  rw [value, ← result_eq_ok_iff] at out
  cases out.symm.trans refused

namespace Document

/-- A refused value is reported of truly, at every place once, part by part and child by child :
issues of the version stand before those of the palette and those before the issues of the root,
and between the issues of a group there are those of its children, each as if checked alone. -/
theorem refusals_are_reported (options : ValidationOptions) :
    (∀ raw issues, validate options raw = .error issues →
      Report options.maxDepth .document raw issues ∧
        ∀ members, raw = .object members → ∃ version palette root,
          issues = version ++ palette ++ root ∧
            (∀ issue ∈ version, issue.path = Path.top.key "version") ∧
            (∀ issue ∈ palette, (Path.top.key "palette").segments <+: issue.path.segments) ∧
            ∀ issue ∈ root, (Path.top.key "root").segments <+: issue.path.segments) ∧
    (∀ raw issues, Node.validate options raw = .error issues →
      Report options.maxDepth (.node 0) raw issues) ∧
    ∀ (path : Path) (depth : Nat) (members : Members) (items : List Json),
      depth ≤ options.maxDepth → members.NameGroup → ChildItems members items →
        ∃ before behind,
          (Node.check options path depth (.object (members.without "children"))).issues =
            before ++ behind ∧
          (Node.check options path depth (.object members)).issues = before ++
            (items.zipIdx.flatMap fun entry => (Node.check options
              ((path.key "children").index entry.2) (depth + 1) entry.1).issues) ++ behind := by
  refine ⟨fun raw issues refused => ?_, fun raw issues refused => ?_, fun _ _ _ _ => Node.issues_group⟩
  · obtain ⟨rfl, some_issue⟩ :=
      Checked.issues_of_result (fun _ => exists_of_outcome_check) refused
    have apart := areApart_check options raw
    refine ⟨⟨some_issue, holds_of_mem_check options raw, apart.nodup_paths,
      fun _ mem _ other => apart.eq_of_prefix mem other⟩, ?_⟩
    rintro members rfl
    exact ⟨_, _, _, issues_check_object, fun _ => path_of_mem_checkVersion,
      fun _ => prefix_of_mem_palette, fun _ => prefix_of_mem_checkRoot⟩
  · have comes_out : ∀ o, (Node.check options .top 0 raw).outcome = some o → ∃ a, o = some a := by
      intro o out
      obtain ⟨node, rfl, -⟩ := Node.outcome_check raw out
      exact ⟨node, rfl⟩
    obtain ⟨rfl, some_issue⟩ := Checked.issues_of_result comes_out refused
    have apart : AreApart (Node.check options .top 0 raw).issues := Node.areApart_check raw .top 0
    exact ⟨some_issue, Node.holds_of_mem_issues raw .top (Nat.zero_le _), apart.nodup_paths,
      fun _ mem _ other => apart.eq_of_prefix mem other⟩

/-- A card reports of its children before its padding. -/
theorem card_reports_children_first :
    let items : List Json := [.object [("type", .string "slider")],
      .object [("type", .string "text")]]
    let members : Members := [("padding", .string "wide"), ("type", .string "card"),
      ("children", .array items)]
    let raw : Json := .object [("version", .string "0.1"), ("root", .object members)]
    let root := Path.top.key "root"
    let issues : List Issue := [
      ⟨((root.key "children").index 0).key "type", .unknownType "slider"⟩,
      ⟨((root.key "children").index 1).key "content", .missing⟩,
      ⟨root.key "padding", .wrongType .number .string⟩]
    validate .structural raw = .error issues ∧ Report defaultMaxDepth .document raw issues ∧
      0 ≤ defaultMaxDepth ∧ members.NameGroup ∧ ChildItems members items ∧
        ∃ before behind, (Node.check .structural root 0 (.object members)).issues = before ++
          (items.zipIdx.flatMap fun entry => (Node.check .structural
            ((root.key "children").index entry.2) 1 entry.1).issues) ++ behind := by
  intro items members raw root issues
  obtain ⟨documents, -, children⟩ := refusals_are_reported .structural
  have refused : validate .structural raw = .error issues := rfl
  have nameGroup : Members.NameGroup members := ⟨.card, rfl, rfl⟩
  have listed : ChildItems members items := .array rfl
  obtain ⟨before, behind, -, all⟩ := children root 0 members items (Nat.zero_le _) nameGroup listed
  exact ⟨refused, (documents raw issues refused).1, Nat.zero_le _, nameGroup, listed, before,
    behind, all⟩

end Document

end Wireframe
