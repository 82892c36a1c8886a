import Wireframe.Proofs.History.Serial

/-!
# A capped log

A history over a store that held none is a log of what was added, with a cap. Whatever is added,
deleted and cleared, it lists the last records first, never more of them than the limit, each as it
was added. A record is missing only if it was removed, or if as many as the limit were added after
it (`History.capped_log_latest_first`).

A store may refuse to save. Changes that fail leave everything as it is, so the log is one of the
changes that were carried out (`History.records_afterAll_carriedOut`).
-/

namespace Wireframe

namespace Change

variable {limit : Nat} {rs : List HistoryRecord}

/-- No change leaves more records than the limit allows. -/
theorem length_apply_le (within : rs.length ≤ limit) (c : Change) :
    (apply limit rs c).length ≤ limit := by
  cases c with
  | append record =>
    rw [apply_append, History.latest, List.length_drop]
    omega
  | delete id =>
    rw [apply_delete]
    exact (List.length_filter_le _ _).trans within
  | clear => simp [apply_clear]

theorem length_applyAll_le : ∀ (changes : List Change) {rs : List HistoryRecord},
    rs.length ≤ limit → (applyAll limit changes rs).length ≤ limit
  | [], _, within => within
  | c :: rest, _, within => length_applyAll_le rest (length_apply_le within c)

/-- A record that nothing removed is there, or the limit was reached behind it. -/
theorem mem_applyAll_or (before : List Change) (record : HistoryRecord) (after : List Change)
    (rs : List HistoryRecord) :
    record ∈ applyAll limit (before ++ append record :: after) rs ∨
      (∃ c ∈ after, c.Removes record.id) ∨ limit ≤ additions after := by
  by_cases removed : ∃ c ∈ after, c.Removes record.id
  · exact .inr (.inl removed)
  · by_cases few : additions after < limit
    · exact .inl (mem_applyAll before rs (fun c mem removes => removed ⟨c, mem, removes⟩) few)
    · exact .inr (.inr (Nat.not_lt.1 few))

/-- A record that was removed after it was added is gone, where no two records have one id. -/
theorem not_mem_applyAll {before : List Change} {record : HistoryRecord} {after : List Change}
    (distinct : (((before ++ append record :: after).filterMap record?).map
      HistoryRecord.id).Nodup) (removed : ∃ c ∈ after, c.Removes record.id) :
    record ∉ applyAll limit (before ++ append record :: after) rs := by
  obtain ⟨c, mem, removes⟩ := removed
  obtain ⟨first, last, rfl⟩ := List.append_of_mem mem
  rw [List.filterMap_append, List.filterMap_cons_some (show record? (append record) = some record
    from rfl), List.map_append, List.map_cons, List.nodup_append, List.nodup_cons] at distinct
  obtain ⟨-, ⟨once, -⟩, -⟩ := distinct
  have unadded : ∀ r, append r ∈ last → r.id ≠ record.id := by
    intro r added same
    have later : r ∈ (first ++ c :: last).filterMap record? :=
      List.mem_filterMap.2 ⟨append r, by simp [added], rfl⟩
    exact once (same ▸ List.mem_map_of_mem later)
  intro there
  have split : before ++ append record :: (first ++ c :: last) =
      (before ++ append record :: first) ++ c :: last := by simp
  rw [split] at there
  exact ne_of_mem_applyAll removes _ rs unadded record there rfl

/-- A deletion has an effect if there is a record with the id. -/
theorem isSome_next?_delete (limit : Nat) (rs : List HistoryRecord) (id : String) :
    ((delete id).next? limit rs).isSome = true ↔ ∃ r ∈ rs, r.id = id := by
  have shorter : (rs.filter fun r => r.id ≠ id).length = rs.length ↔ ∀ r ∈ rs, r.id ≠ id := by
    simp [List.length_filter_eq_length_iff]
  simp only [next?, shorter]
  split_ifs with absent
  · simpa using absent
  · simpa using absent

end Change

namespace History

variable {σ : Type} [KeyValueStore σ]

/-! ## What is carried out -/

/-- Those of the changes that are carried out, in their order. -/
def carriedOut (h : History σ) : List Change → List Change
  | [] => []
  | c :: rest =>
    match h.result c with
    | .ok _ => c :: (h.after c).carriedOut rest
    | .error _ => (h.after c).carriedOut rest

/-- Nothing is carried out that was not asked for. -/
theorem carriedOut_sublist : ∀ (changes : List Change) (h : History σ),
    (h.carriedOut changes).Sublist changes
  | [], _ => .slnil
  | c :: rest, h => by
    rw [carriedOut]
    split
    · exact (carriedOut_sublist rest _).cons_cons c
    · exact (carriedOut_sublist rest _).cons c

/-- No change alters the limit. -/
theorem limit_after (h : History σ) (c : Change) : (h.after c).limit = h.limit := by
  obtain ⟨store, after_eq⟩ := h.after_eq c
  rw [after_eq]

variable [LawfulStore σ]

/-- Changes one after the other do to the records what those that are carried out do to lists of
records. -/
theorem records_afterAll_carriedOut : ∀ {changes : List Change} {h : History σ}
    {rs : List HistoryRecord}, h.records = .ok rs → (∀ r, .append r ∈ changes → Storable r) →
      (h.afterAll changes).records = .ok (Change.applyAll h.limit (h.carriedOut changes) rs)
  | [], _, _, read, _ => read
  | c :: rest, h, rs, read, storable => by
    have storable_rest : ∀ r, .append r ∈ rest → Storable r :=
      fun r mem => storable r (List.mem_cons_of_mem _ mem)
    change ((h.after c).afterAll rest).records = _
    cases performed : h.perform c with
    | error e =>
      obtain ⟨after_eq, result_eq⟩ := after_of_error performed
      rw [carriedOut, result_eq, after_eq]
      exact records_afterAll_carriedOut read storable_rest
    | ok done =>
      obtain ⟨changed, h'⟩ := done
      obtain ⟨after_eq, result_eq⟩ := after_of_ok performed
      have read_next : (h.after c).records = .ok (c.apply h.limit rs) :=
        after_eq ▸ (of_perform read (fun r eq => storable r (by simp [eq])) performed).1
      rw [carriedOut, result_eq, Change.applyAll_cons, ← h.limit_after c]
      exact records_afterAll_carriedOut (h.limit_after c ▸ read_next) storable_rest

/-- Everything is carried out if the store takes everything that is saved. -/
theorem carriedOut_eq
    (takes : ∀ (store : σ) (text : String),
      ∃ store', KeyValueStore.save store key text = .ok store') :
    ∀ {changes : List Change} {h : History σ} {rs : List HistoryRecord}, h.records = .ok rs →
      (∀ r, .append r ∈ changes → Storable r) → h.carriedOut changes = changes
  | [], _, _, _, _ => rfl
  | c :: rest, h, rs, read, storable => by
    obtain ⟨changed, h', performed⟩ := exists_perform (takes h.store) read
    obtain ⟨after_eq, result_eq⟩ := after_of_ok performed
    have read_next : (h.after c).records = .ok (c.apply h.limit rs) :=
      after_eq ▸ (of_perform read (fun r eq => storable r (by simp [eq])) performed).1
    rw [carriedOut, result_eq]
    exact congrArg (c :: ·)
      (carriedOut_eq takes read_next fun r mem => storable r (List.mem_cons_of_mem _ mem))

omit [LawfulStore σ] in
/-- Records that are read back when they are written alone can be read back with others. -/
theorem storable_of_decodeAll? {r : HistoryRecord}
    (read : HistoryRecord.decodeAll? (HistoryRecord.encodeAll [r]) = some [r]) : Storable r :=
  HistoryRecord.of_decodeAll? read r (List.mem_singleton_self r)

/-- A deletion that is carried out says whether a record with the id was listed, and removes no
other. -/
theorem list_of_delete {h h' : History σ} {rs : List HistoryRecord} {id : String} {changed : Bool}
    (listed : h.list = .ok rs) (deleted : h.delete id = .ok (changed, h')) :
    (changed = true ↔ ∃ r ∈ rs, r.id = id) ∧ h'.list = .ok (rs.filter fun r => r.id ≠ id) := by
  obtain ⟨oldest_first, read, rfl⟩ := map_eq_ok_iff.1 listed
  obtain ⟨records_eq, rfl⟩ := of_perform read (by simp) deleted
  constructor
  · simp [Change.isSome_next?_delete]
  · rw [list, records_eq, Change.apply_delete, List.filter_reverse]
    rfl

omit [LawfulStore σ] in
/-- A record is found if it is listed, where no two records have one id. -/
theorem find?_eq_some_iff {h : History σ} {rs : List HistoryRecord} (listed : h.list = .ok rs)
    (distinct : (rs.map HistoryRecord.id).Nodup) (id : String) (record : HistoryRecord) :
    h.find? id = .ok (some record) ↔ record ∈ rs ∧ record.id = id := by
  obtain ⟨oldest_first, read, rfl⟩ := map_eq_ok_iff.1 listed
  rw [find?, read]
  simp only [Except.map, Except.ok.injEq, List.mem_reverse]
  constructor
  · intro found
    exact ⟨List.mem_of_find?_eq_some found, by simpa using List.find?_some found⟩
  · rintro ⟨mem, rfl⟩
    rw [List.map_reverse, List.nodup_reverse] at distinct
    exact find?_of_nodup_map distinct mem

/-! ## The log -/

/-- Over a store that held no history, after any changes of which no two add records with one id, the
list never has more records than the limit, or than one. They are records that were added, unchanged
and none twice, the last first. A record that was added is listed unless it was removed after it, or
at least the limit were added after it, and if it was removed it is not listed. Deleting says whether
a record was listed and takes only it away, and a record is found exactly if it is listed. Only
changes that are carried out count, which are all if the store takes what is saved. -/
theorem capped_log_latest_first (store : σ) (limit : Nat) (changes : List Change)
    (empty : KeyValueStore.load store key = .ok none)
    (distinct : ((changes.filterMap Change.record?).map HistoryRecord.id).Nodup)
    (readable : ∀ rs : List HistoryRecord, (∀ r ∈ rs, .append r ∈ changes) →
      HistoryRecord.decodeAll? (HistoryRecord.encodeAll rs) = some rs) :
    let start := ofStore store limit
    let done := start.carriedOut changes
    let h := start.afterAll changes
    ((∀ (s : σ) text, ∃ s', KeyValueStore.save s key text = .ok s') → done = changes) ∧
    ∃ rs, h.list = .ok rs ∧ rs.length ≤ max limit 1 ∧ rs.Nodup ∧
      rs.Sublist (done.filterMap Change.record?).reverse ∧
      (∀ before record after, done = before ++ .append record :: after →
        (record ∈ rs ∨ (∃ c ∈ after, c.Removes record.id) ∨ max limit 1 ≤ Change.additions after) ∧
        ((∃ c ∈ after, c.Removes record.id) → record ∉ rs)) ∧
      (∀ id changed h', h.delete id = .ok (changed, h') →
        (changed = true ↔ ∃ r ∈ rs, r.id = id) ∧ h'.list = .ok (rs.filter fun r => r.id ≠ id)) ∧
      (∀ id, (∀ text, ∃ s', KeyValueStore.save h.store key text = .ok s') →
        ∃ changed h', h.delete id = .ok (changed, h')) ∧
      ∀ id record, h.find? id = .ok (some record) ↔ record ∈ rs ∧ record.id = id := by
  intro start done h
  have storable : ∀ r, .append r ∈ changes → Storable r := fun r added =>
    storable_of_decodeAll? (readable [r] fun _ mem => List.mem_singleton.1 mem ▸ added)
  have read_start : start.records = .ok [] := by
    have loaded : KeyValueStore.load start.store key = .ok none := empty
    rw [records, loaded]
  have read : h.records = .ok (Change.applyAll start.limit done []) :=
    records_afterAll_carriedOut read_start storable
  have done_sub : done.Sublist changes := carriedOut_sublist changes start
  have done_distinct : ((done.filterMap Change.record?).map HistoryRecord.id).Nodup :=
    ((done_sub.filterMap _).map _).nodup distinct
  have sub : (Change.applyAll start.limit done []).Sublist (done.filterMap Change.record?) :=
    Change.applyAll_sublist done []
  have listed : h.list = .ok (Change.applyAll start.limit done []).reverse := by
    rw [list, read]
    rfl
  have ids_nodup : ((Change.applyAll start.limit done []).reverse.map HistoryRecord.id).Nodup := by
    rw [List.map_reverse, List.nodup_reverse]
    exact (sub.map _).nodup done_distinct
  refine ⟨fun takes => carriedOut_eq takes read_start storable, _, listed, ?_, ids_nodup.of_map _,
    sub.reverse, ?_, fun id changed h' => list_of_delete listed,
    fun id takes => exists_perform takes read, find?_eq_some_iff listed ids_nodup⟩
  · rw [List.length_reverse]
    exact Change.length_applyAll_le done (Nat.zero_le _)
  · intro before record after done_eq
    simp only [List.mem_reverse]
    rw [done_eq] at done_distinct ⊢
    exact ⟨Change.mem_applyAll_or before record after [], Change.not_mem_applyAll done_distinct⟩

/-- With a limit of two, three records are added and the second one is deleted : the last one is
listed and found, the deleted one is not. -/
theorem list_after_three_additions :
    let record (id : String) := HistoryRecord.ofDocument ⟨id, ⟨0, 0⟩⟩ .sample .sample
    let changes : List Change :=
      [.append (record "a"), .append (record "b"), .append (record "c"), .delete "b"]
    let h := (ofStore MemoryStore.empty 2).afterAll changes
    ((changes.filterMap Change.record?).map HistoryRecord.id).Nodup ∧
      (∀ rs : List HistoryRecord, (∀ r ∈ rs, .append r ∈ changes) →
        HistoryRecord.decodeAll? (HistoryRecord.encodeAll rs) = some rs) ∧
      ∃ rs, h.list = .ok rs ∧ rs.length ≤ 2 ∧ record "c" ∈ rs ∧ record "b" ∉ rs ∧
        h.find? "c" = .ok (some (record "c")) := by
  intro record changes h
  have distinct : ((changes.filterMap Change.record?).map HistoryRecord.id).Nodup := by decide
  have time : (⟨0, 0⟩ : Timestamp).Valid := ⟨by decide, .inl (by decide)⟩
  have storable : ∀ r, .append r ∈ changes → Storable r := by
    intro r added
    obtain ⟨id, rfl⟩ : ∃ id, r = record id := by
      simp only [changes, List.mem_cons, Change.append.injEq, reduceCtorEq, List.not_mem_nil,
        or_false] at added
      rcases added with rfl | rfl | rfl <;> exact ⟨_, rfl⟩
    exact storable_ofDocument time .sample (by decide)
  have readable : ∀ rs : List HistoryRecord, (∀ r ∈ rs, .append r ∈ changes) →
      HistoryRecord.decodeAll? (HistoryRecord.encodeAll rs) = some rs := by
    intro rs added
    rw [HistoryRecord.decodeAll?_encodeAll fun r mem => (storable r (added r mem)).1,
      if_pos fun r mem => (storable r (added r mem)).2]
  obtain ⟨all_done, rs, listed, length_le, -, -, kept, -, -, found⟩ :=
    capped_log_latest_first MemoryStore.empty 2 changes rfl distinct readable
  rw [all_done fun s text => ⟨_, rfl⟩] at kept
  have last : record "c" ∈ rs := by
    obtain there | ⟨c, mem, removes⟩ | many :=
      (kept [.append (record "a"), .append (record "b")] (record "c") [.delete "b"] rfl).1
    · exact there
    · obtain rfl := List.mem_singleton.1 mem
      exact absurd (show "b" = "c" from removes) (by decide)
    · exact absurd many (by decide)
  have deleted : record "b" ∉ rs :=
    (kept [.append (record "a")] (record "b") [.append (record "c"), .delete "b"] rfl).2
      ⟨.delete "b", by simp, rfl⟩
  exact ⟨distinct, readable, rs, listed, length_le, last, deleted, (found "c" _).2 ⟨last, rfl⟩⟩

end History

end Wireframe
