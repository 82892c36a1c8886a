import Wireframe.Proofs.History.Recording

/-!
# Changes one at a time

What becomes of a list of records when changes are carried out one after the other
(`Change.applyAll`) : the records are some of those that were there and of those that were added, in
this order and none twice (`Change.applyAll_sublist`); what was removed stays away unless it is added
again (`Change.ne_of_mem_applyAll`); and what was added stays until it is removed or the limit is
reached (`Change.mem_applyAll`). `Change.Accounted` says all three.

A history does the same with the records in its store (`History.records_afterAll`).
-/

namespace Wireframe

namespace Change

/-! ## Lists of records -/

/-- The records after a change. -/
def apply (limit : Nat) (rs : List HistoryRecord) (c : Change) : List HistoryRecord :=
  (c.next? limit rs).getD rs

/-- The records after changes one after the other. -/
def applyAll (limit : Nat) (changes : List Change) (rs : List HistoryRecord) :
    List HistoryRecord :=
  changes.foldl (apply limit) rs

/-- The record that a change adds. -/
def record? : Change → Option HistoryRecord
  | append record => some record
  | delete _ | clear => none

/-- Whether a change removes records with an id. -/
def Removes (id : String) : Change → Prop
  | append _ => False
  | delete other => other = id
  | clear => True

variable {limit : Nat}

@[simp] theorem applyAll_nil (rs : List HistoryRecord) : applyAll limit [] rs = rs :=
  rfl

@[simp] theorem applyAll_cons (c : Change) (rest : List Change) (rs : List HistoryRecord) :
    applyAll limit (c :: rest) rs = applyAll limit rest (apply limit rs c) :=
  rfl

theorem applyAll_append (before after : List Change) (rs : List HistoryRecord) :
    applyAll limit (before ++ after) rs = applyAll limit after (applyAll limit before rs) :=
  List.foldl_append

theorem apply_append (rs : List HistoryRecord) (record : HistoryRecord) :
    apply limit rs (append record) = History.latest limit (rs ++ [record]) :=
  rfl

theorem apply_delete (rs : List HistoryRecord) (id : String) :
    apply limit rs (delete id) = rs.filter fun r => r.id ≠ id := by
  simp only [apply, next?]
  split
  · next same => exact (List.filter_sublist.eq_of_length same).symm
  · rfl

theorem apply_clear (rs : List HistoryRecord) : apply limit rs clear = [] :=
  rfl

/-- A change leaves some of the records, with its own one behind them. -/
theorem apply_sublist (limit : Nat) (rs : List HistoryRecord) (c : Change) :
    (apply limit rs c).Sublist (rs ++ c.record?.toList) := by
  cases c with
  | append record => exact List.drop_sublist _ _
  | delete id =>
    rw [apply_delete]
    exact List.filter_sublist.trans (List.sublist_append_left _ _)
  | clear => exact List.nil_sublist _

/-- What is left are records that were there or were added, in this order and none twice. -/
theorem applyAll_sublist : ∀ (changes : List Change) (rs : List HistoryRecord),
    (applyAll limit changes rs).Sublist (rs ++ changes.filterMap record?)
  | [], rs => by simp
  | c :: rest, rs => by
    have kept := (applyAll_sublist rest _).trans
      ((apply_sublist limit rs c).append_right (rest.filterMap record?))
    cases added : c.record? <;> simpa [List.filterMap_cons, added] using kept

/-- No record has an id that none had, as long as none with it is added. -/
theorem ne_of_mem_applyAll_of_absent {id : String} {rs : List HistoryRecord}
    {changes : List Change} (absent : ∀ r ∈ rs, r.id ≠ id)
    (unadded : ∀ r, append r ∈ changes → r.id ≠ id) :
    ∀ r ∈ applyAll limit changes rs, r.id ≠ id := by
  intro r mem
  obtain old | new := List.mem_append.1 ((applyAll_sublist changes rs).subset mem)
  · exact absent r old
  · obtain ⟨c, c_mem, added⟩ := List.mem_filterMap.1 new
    cases c with
    | append record =>
      obtain rfl := Option.some.inj added
      exact unadded record c_mem
    | delete | clear => cases added

/-- Records that were removed do not come back unless such a record is added. -/
theorem ne_of_mem_applyAll {id : String} {c : Change} (removes : c.Removes id)
    (before : List Change) {after : List Change} (rs : List HistoryRecord)
    (unadded : ∀ r, append r ∈ after → r.id ≠ id) :
    ∀ r ∈ applyAll limit (before ++ c :: after) rs, r.id ≠ id := by
  rw [applyAll_append, applyAll_cons]
  refine ne_of_mem_applyAll_of_absent ?_ unadded
  cases c with
  | append => cases removes
  | delete other =>
    obtain rfl : other = id := removes
    simp [apply_delete]
  | clear => simp [apply_clear]

/-- How many of the changes add a record. -/
def additions (changes : List Change) : Nat :=
  (changes.filterMap record?).length

/-- A record stays as long as it is not removed and those behind it are fewer than the limit. -/
theorem mem_applyAll_of_behind {record : HistoryRecord} : ∀ {after : List Change}
    {front behind : List HistoryRecord}, (∀ c ∈ after, ¬ c.Removes record.id) →
    behind.length + additions after < limit →
    record ∈ applyAll limit after (front ++ record :: behind)
  | [], front, behind, _, _ => by simp
  | c :: rest, front, behind, stays, few => by
    have stays_rest : ∀ c ∈ rest, ¬ c.Removes record.id := fun c mem => stays c (by simp [mem])
    rw [applyAll_cons]
    cases c with
    | append r =>
      -- the new record comes behind, and at most some in front are dropped
      have few' : (behind ++ [r]).length + additions rest < limit := by
        simp [additions, record?] at few ⊢
        omega
      have drop_le : (front ++ record :: (behind ++ [r])).length - limit ≤ front.length := by
        simp at few' ⊢
        omega
      have kept : apply limit (front ++ record :: behind) (append r) =
          front.drop ((front ++ record :: (behind ++ [r])).length - limit) ++
            record :: (behind ++ [r]) := by
        rw [apply_append, History.latest, List.append_assoc, List.cons_append,
          List.drop_append_of_le_length drop_le]
      rw [kept]
      exact mem_applyAll_of_behind stays_rest few'
    | delete id =>
      have other : record.id ≠ id := fun same => stays (delete id) (by simp) same.symm
      have kept : apply limit (front ++ record :: behind) (delete id) =
          front.filter (fun r => r.id ≠ id) ++ record :: behind.filter (fun r => r.id ≠ id) := by
        rw [apply_delete, List.filter_append, List.filter_cons_of_pos (by simpa using other)]
      have fewer := List.length_filter_le (fun r => decide (r.id ≠ id)) behind
      rw [kept]
      refine mem_applyAll_of_behind stays_rest ?_
      simp only [additions, List.filterMap_cons, record?] at few ⊢
      omega
    | clear => exact absurd trivial (stays clear (by simp))

/-- A record that was added stays as long as it is not removed and fewer than the limit are added
after it. -/
theorem mem_applyAll {record : HistoryRecord} (before : List Change) {after : List Change}
    (rs : List HistoryRecord) (stays : ∀ c ∈ after, ¬ c.Removes record.id)
    (few : additions after < limit) :
    record ∈ applyAll limit (before ++ append record :: after) rs := by
  have pos : 0 < limit := Nat.zero_lt_of_lt few
  rw [applyAll_append, applyAll_cons, apply_append, History.latest,
    List.drop_append_of_le_length (by simp; omega)]
  exact mem_applyAll_of_behind stays (by simpa using few)

/-- What becomes of records when changes are carried out one after the other : what is kept. -/
structure Accounted (limit : Nat) (changes : List Change) (rs kept : List HistoryRecord) :
    Prop where
  /-- Nothing is there that was not, and nothing twice. -/
  sublist : kept.Sublist (rs ++ changes.filterMap record?)
  /-- What was added is there unless it was removed or the limit was reached. -/
  mem : ∀ {before after : List Change} {record : HistoryRecord},
    changes = before ++ append record :: after → (∀ c ∈ after, ¬ c.Removes record.id) →
      additions after < limit → record ∈ kept
  /-- What was removed is not there unless it was added again. -/
  ne : ∀ {before after : List Change} {c : Change} {id : String},
    changes = before ++ c :: after → c.Removes id → (∀ r, append r ∈ after → r.id ≠ id) →
      ∀ r ∈ kept, r.id ≠ id

theorem accounted_applyAll (limit : Nat) (changes : List Change) (rs : List HistoryRecord) :
    Accounted limit changes rs (applyAll limit changes rs) where
  sublist := applyAll_sublist changes rs
  mem := by
    rintro before after record rfl stays few
    exact mem_applyAll before rs stays few
  ne := by
    rintro before after c id rfl removes unadded
    exact ne_of_mem_applyAll removes before rs unadded

end Change

namespace History

/-! ## Histories -/

variable {σ : Type} [KeyValueStore σ]

/-- The history after a change. One that fails leaves it alone. -/
def after (h : History σ) (c : Change) : History σ :=
  match h.perform c with
  | .ok (_, next) => next
  | .error _ => h

/-- The history after changes one after the other. -/
def afterAll (h : History σ) (changes : List Change) : History σ :=
  changes.foldl after h

/-- What a change returns : whether it had an effect, or why it failed. -/
def result (h : History σ) (c : Change) : Except StorageError Bool :=
  (h.perform c).map Prod.fst

theorem afterAll_concat (h : History σ) (changes : List Change) (c : Change) :
    h.afterAll (changes ++ [c]) = (h.afterAll changes).after c := by
  simp [afterAll]

/-- A change that is carried out takes its effect and returns. -/
theorem after_of_ok {h h' : History σ} {c : Change} {changed : Bool}
    (performed : h.perform c = .ok (changed, h')) :
    h.after c = h' ∧ h.result c = .ok changed := by
  simp [after, result, performed, Except.map]

/-- A change that fails has no effect. -/
theorem after_of_error {h : History σ} {c : Change} {e : StorageError}
    (failed : h.perform c = .error e) : h.after c = h ∧ h.result c = .error e := by
  simp [after, result, failed, Except.map]

/-- A change only touches the store. -/
theorem after_eq (h : History σ) (c : Change) : ∃ store, h.after c = { h with store := store } := by
  cases performed : h.perform c with
  | error e => exact ⟨h.store, (after_of_error performed).1⟩
  | ok done =>
    obtain ⟨changed, h'⟩ := done
    rw [(after_of_ok performed).1]
    obtain ⟨rs, -, ⟨-, -, rfl⟩ | ⟨next, -, saved, -⟩⟩ := perform_eq_ok_iff.1 performed
    · exact ⟨h'.store, rfl⟩
    · obtain ⟨store, -, rfl⟩ := save_eq_ok_iff.1 saved
      exact ⟨store, rfl⟩

theorem afterAll_eq : ∀ (h : History σ) (changes : List Change),
    ∃ store, h.afterAll changes = { h with store := store }
  | h, [] => ⟨h.store, rfl⟩
  | h, c :: rest => by
    obtain ⟨first, after_eq⟩ := h.after_eq c
    obtain ⟨store, afterAll_eq⟩ := afterAll_eq (h.after c) rest
    refine ⟨store, ?_⟩
    change (h.after c).afterAll rest = _
    rw [afterAll_eq, after_eq]

/-- Records that can be read again once they are saved. -/
def Storable (record : HistoryRecord) : Prop :=
  record.Keeps ∧ record.document.nesting ≤ HistoryRecord.levels

/-- The record of a document that is not nested too deep can be read again. -/
theorem storable_ofDocument {stamp : Stamp} (time : stamp.time.Valid) (tag : SourceTag)
    {d : Document} (flat : d.root.height ≤ 61) : Storable (.ofDocument stamp tag d) :=
  ⟨HistoryRecord.keeps_ofDocument time tag d, (d.nesting_toJson_le_iff 61).2 flat⟩

variable [LawfulStore σ]

omit [LawfulStore σ] in
/-- A change starts from the records that are read, if they matter to it. -/
theorem next?_of_recordsFor {h : History σ} {rs start : List HistoryRecord} {c : Change}
    (read : h.records = .ok rs) (start_eq : h.recordsFor c = .ok start) :
    c.next? h.limit start = c.next? h.limit rs := by
  cases c with
  | append | delete =>
    have same : h.records = .ok start := start_eq
    rw [Except.ok.inj (same.symm.trans read)]
  | clear => rfl

omit [LawfulStore σ] in
/-- A change is carried out if the records can be read and the store takes what is saved. -/
theorem exists_perform {h : History σ} {rs : List HistoryRecord} {c : Change}
    (takes : ∀ text, ∃ store, KeyValueStore.save h.store key text = .ok store)
    (read : h.records = .ok rs) : ∃ changed h', h.perform c = .ok (changed, h') := by
  obtain ⟨start, start_eq⟩ : ∃ start, h.recordsFor c = .ok start := by
    cases c with
    | append | delete => exact ⟨rs, read⟩
    | clear => exact ⟨[], rfl⟩
  cases next_eq : c.next? h.limit start with
  | none => exact ⟨false, h, perform_eq_ok_iff.2 ⟨start, start_eq, .inl ⟨next_eq, rfl, rfl⟩⟩⟩
  | some next =>
    obtain ⟨store, stored⟩ := takes (HistoryRecord.encodeAll next)
    have saved : h.save next = .ok { h with store := store } :=
      save_eq_ok_iff.2 ⟨store, stored, rfl⟩
    exact ⟨true, _, perform_eq_ok_iff.2 ⟨start, start_eq, .inr ⟨next, next_eq, saved, rfl⟩⟩⟩

/-- A change that is carried out does to the records what it does to lists of records, and says
whether it had an effect. -/
theorem of_perform {h h' : History σ} {rs : List HistoryRecord} {c : Change} {changed : Bool}
    (read : h.records = .ok rs) (storable : ∀ r, c = .append r → Storable r)
    (performed : h.perform c = .ok (changed, h')) :
    h'.records = .ok (c.apply h.limit rs) ∧ changed = (c.next? h.limit rs).isSome := by
  obtain ⟨start, start_eq, ⟨next_eq, rfl, rfl⟩ | ⟨next, next_eq, saved, rfl⟩⟩ :=
    perform_eq_ok_iff.1 performed
  · rw [next?_of_recordsFor read start_eq] at next_eq
    rw [Change.apply, next_eq]
    exact ⟨read, rfl⟩
  · rw [next?_of_recordsFor read start_eq] at next_eq
    have all : ∀ r ∈ next, Storable r := by
      intro r mem
      have sub := Change.apply_sublist h.limit rs c
      rw [Change.apply, next_eq] at sub
      obtain old | new := List.mem_append.1 (sub.subset mem)
      · exact of_records read r old
      · cases c with
        | append record =>
          obtain rfl := Option.some.inj (Option.mem_toList.1 new)
          exact storable _ rfl
        | delete | clear => cases new
    rw [records_of_save saved fun r mem => (all r mem).1, if_pos fun r mem => (all r mem).2,
      Change.apply, next_eq]
    exact ⟨rfl, rfl⟩

/-- A change does to the records what it does to lists of records, if the store takes what is saved
and it can be read again. -/
theorem records_after {h : History σ} {rs : List HistoryRecord} {c : Change}
    (takes : ∀ text, ∃ store, KeyValueStore.save h.store key text = .ok store)
    (read : h.records = .ok rs) (storable : ∀ r, c = .append r → Storable r) :
    (h.after c).records = .ok (c.apply h.limit rs) := by
  obtain ⟨changed, h', performed⟩ := exists_perform takes read
  rw [(after_of_ok performed).1]
  exact (of_perform read storable performed).1

/-- Changes one after the other do to the records what they do to lists of records. -/
theorem records_afterAll
    (takes : ∀ (store : σ) (text : String),
      ∃ store', KeyValueStore.save store key text = .ok store') :
    ∀ {changes : List Change} {h : History σ} {rs : List HistoryRecord}, h.records = .ok rs →
      (∀ r, .append r ∈ changes → Storable r) →
      (h.afterAll changes).records = .ok (Change.applyAll h.limit changes rs)
  | [], _, _, read, _ => read
  | c :: rest, h, rs, read, storable => by
    obtain ⟨store, after_eq⟩ := h.after_eq c
    have limit_eq : (h.after c).limit = h.limit := by rw [after_eq]
    have read_next : (h.after c).records = .ok (c.apply h.limit rs) :=
      records_after (takes h.store) read fun r eq => storable r (by simp [eq])
    have rest_eq : ((h.after c).afterAll rest).records =
        .ok (Change.applyAll (h.after c).limit rest (c.apply h.limit rs)) :=
      records_afterAll takes read_next fun r mem => storable r (List.mem_cons_of_mem _ mem)
    rwa [limit_eq] at rest_eq

end History

end Wireframe
