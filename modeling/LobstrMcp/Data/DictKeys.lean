import LobstrMcp.Data.Dict
import Mathlib.Data.List.Dedup
import Mathlib.Data.List.Nodup

/-!
Dictionaries with distinct keys: lookups see every entry, and dictionaries built entry by entry
are the lists of their entries.
-/

namespace Dict
variable {κ α β : Type} [DecidableEq κ]

omit [DecidableEq κ] in
theorem mem_keys_of_mem {d : Dict κ α} {k : κ} {v : α} (member : (k, v) ∈ d) : k ∈ keys d :=
  List.mem_map_of_mem member

theorem mem_keys_of_get? {d : Dict κ α} {k : κ} {v : α} (read : get? d k = some v) : k ∈ keys d :=
  mem_keys_of_mem (mem_of_get? read)

theorem get?_eq_none_iff (d : Dict κ α) (k : κ) : get? d k = none ↔ k ∉ keys d := by
  rw [mem_keys_iff, contains]
  simp

theorem exists_get?_of_mem_keys {d : Dict κ α} {k : κ} (member : k ∈ keys d) : ∃ v, get? d k = some v :=
  (contains_iff d k).mp ((mem_keys_iff d k).mp member)

theorem mem_get? {d : Dict κ α} (distinct : (keys d).Nodup) {k : κ} {v : α} (member : (k, v) ∈ d) :
    get? d k = some v := by
  induction d with
  | nil => cases member
  | cons item rest ih =>
    obtain ⟨l, w⟩ := item
    rw [keys_cons, List.nodup_cons] at distinct
    rcases List.mem_cons.mp member with same | later
    · cases same
      simp
    · have other : l ≠ k := fun same => distinct.1 (same ▸ mem_keys_of_mem later)
      rw [get?_cons, if_neg other, ih distinct.2 later]

theorem mem_iff_get? {d : Dict κ α} (distinct : (keys d).Nodup) {k : κ} {v : α} :
    (k, v) ∈ d ↔ get? d k = some v := ⟨mem_get? distinct, mem_of_get?⟩

theorem get?_append (d e : Dict κ α) (k : κ) : get? (d ++ e) k = (get? d k).or (get? e k) := by
  induction d with
  | nil => rfl
  | cons item rest ih =>
    obtain ⟨l, v⟩ := item
    rw [List.cons_append, get?_cons, get?_cons, ih]
    split <;> rfl

omit [DecidableEq κ] in
theorem keys_singleton (k : κ) (v : α) : keys [(k, v)] = [k] := rfl

omit [DecidableEq κ] in
theorem keys_append (d e : Dict κ α) : keys (d ++ e) = keys d ++ keys e := List.map_append

omit [DecidableEq κ] in
theorem keys_map (d : Dict κ α) (f : κ → α → β) : keys (d.map fun e => (e.1, f e.1 e.2)) = keys d := by
  simp [keys, Function.comp_def]

theorem get?_map (d : Dict κ α) (f : κ → α → β) (k : κ) :
    get? (d.map fun e => (e.1, f e.1 e.2)) k = (get? d k).map (f k) := by
  induction d with
  | nil => rfl
  | cons item rest ih =>
    obtain ⟨l, v⟩ := item
    rw [List.map_cons, get?_cons, get?_cons, ih]
    by_cases same : l = k
    · subst same
      simp
    · simp [same]

theorem get?_filter (d : Dict κ α) (p : κ → Bool) (k : κ) :
    get? (d.filter fun e => p e.1) k = if p k then get? d k else none := by
  induction d with
  | nil => simp
  | cons item rest ih =>
    obtain ⟨l, v⟩ := item
    by_cases same : l = k
    · subst same
      cases holds : p l <;> simp [holds, ih]
    · cases holds : p l <;> simp [holds, same, ih]

theorem get?_filterMap {d : Dict κ α} (distinct : (keys d).Nodup) (f : α → Option β) (k : κ) :
    get? (d.filterMap fun e => (f e.2).map (e.1, ·)) k = (get? d k).bind f := by
  induction d with
  | nil => rfl
  | cons item rest ih =>
    obtain ⟨l, v⟩ := item
    rw [keys_cons, List.nodup_cons] at distinct
    by_cases same : l = k
    · subst same
      have absent := get?_of_not_mem distinct.1
      cases made : f v <;> simp [made, absent, ih distinct.2]
    · cases made : f v <;> simp [made, same, ih distinct.2]

theorem get?_filter_values {d : Dict κ α} (distinct : (keys d).Nodup) (p : α → Bool) (k : κ) :
    get? (d.filter fun e => p e.2) k = (get? d k).filter p := by
  induction d with
  | nil => rfl
  | cons item rest ih =>
    obtain ⟨l, v⟩ := item
    rw [keys_cons, List.nodup_cons] at distinct
    by_cases same : l = k
    · subst same
      have absent := get?_of_not_mem distinct.1
      cases holds : p v <;> simp [holds, absent, ih distinct.2, Option.filter]
    · cases holds : p v <;> simp [holds, same, ih distinct.2]

omit [DecidableEq κ] in
theorem keys_filterMap_sublist (d : Dict κ α) (f : α → Option β) :
    (keys (d.filterMap fun e => (f e.2).map (e.1, ·))).Sublist (keys d) := by
  induction d with
  | nil => exact List.Sublist.refl _
  | cons item rest ih =>
    obtain ⟨k, v⟩ := item
    rw [List.filterMap_cons]
    cases f v with
    | none => exact ih.cons k
    | some w => exact ih.cons_cons k

omit [DecidableEq κ] in
theorem nodup_keys_filter {d : Dict κ α} (distinct : (keys d).Nodup) (p : κ × α → Bool) :
    (keys (d.filter p)).Nodup := distinct.sublist (List.filter_sublist.map Prod.fst)

theorem nodup_keys_set {d : Dict κ α} (distinct : (keys d).Nodup) (k : κ) (v : α) : (keys (set d k v)).Nodup := by
  have updated := nodup_keys_update distinct [(k, v)]
  exact updated

theorem set_set (d : Dict κ α) (k : κ) (v w : α) : set (set d k v) k w = set d k w := by
  induction d with
  | nil => simp [set]
  | cons item rest ih =>
    obtain ⟨l, u⟩ := item
    by_cases same : l = k
    · simp [set, same]
    · simp [set, same, ih]

/-- Writes to different keys commute once the first key is there. -/
theorem set_comm {d : Dict κ α} {k l : κ} (present : k ∈ keys d) (different : k ≠ l) (v w : α) :
    set (set d k v) l w = set (set d l w) k v := by
  induction d with
  | nil => cases present
  | cons item rest ih =>
    obtain ⟨m, u⟩ := item
    by_cases first : m = k
    · subst first
      simp [set, different]
    · have later : k ∈ keys rest := (List.mem_cons.mp present).resolve_left (Ne.symm first)
      by_cases second : m = l
      · subst second
        simp [set, first]
      · simp [set, first, second, ih later]

theorem mem_keys_set {d : Dict κ α} {k l : κ} {v : α} : l ∈ keys (set d k v) ↔ l = k ∨ l ∈ keys d := by
  rw [keys_set]
  by_cases present : k ∈ keys d
  · rw [if_pos present]
    exact ⟨.inr, fun either => either.elim (fun same => same ▸ present) id⟩
  · rw [if_neg present, List.mem_append, List.mem_singleton, or_comm]

/-- The later dictionary is asked first. -/
theorem get?_update {e : Dict κ α} (distinct : (keys e).Nodup) (d : Dict κ α) (k : κ) :
    get? (update d e) k = (get? e k).or (get? d k) := by
  induction e generalizing d with
  | nil => rfl
  | cons item rest ih =>
    obtain ⟨l, v⟩ := item
    rw [keys_cons, List.nodup_cons] at distinct
    rw [update_cons, ih distinct.2, get?_set, get?_cons]
    by_cases same : l = k
    · subst same
      simp [get?_of_not_mem distinct.1]
    · simp [same]

theorem get?_setDefault (d : Dict κ α) (k l : κ) (v : α) :
    get? (setDefault d k v) l = (get? d l).or (get? [(k, v)] l) := by
  unfold setDefault
  by_cases held : contains d k = true
  · rw [if_pos held]
    by_cases same : k = l
    · subst same
      obtain ⟨w, read⟩ := (contains_iff d k).mp held
      simp [read]
    · simp [same]
  · rw [if_neg held, get?_set]
    by_cases same : k = l
    · subst same
      have absent : get? d k = none := by simpa [contains] using held
      simp [absent]
    · simp [same]

theorem nodup_keys_setDefault {d : Dict κ α} (distinct : (keys d).Nodup) (k : κ) (v : α) :
    (keys (setDefault d k v)).Nodup := by
  unfold setDefault
  split
  · exact distinct
  · exact nodup_keys_set distinct k v

/-- A comprehension has every key of its items. -/
theorem mem_keys_update {d e : Dict κ α} {k : κ} : k ∈ keys (update d e) ↔ k ∈ keys d ∨ k ∈ keys e := by
  induction e generalizing d with
  | nil => simp [update_nil, keys]
  | cons item rest ih =>
    obtain ⟨l, v⟩ := item
    rw [update_cons, ih, mem_keys_set, keys_cons, List.mem_cons]
    tauto

theorem mem_keys_collect {items : List (κ × α)} {k : κ} : k ∈ keys (collect items) ↔ k ∈ keys items := by
  unfold collect
  rw [mem_keys_update]
  simp [keys]

theorem nodup_keys_collect (items : List (κ × α)) : (keys (collect items)).Nodup :=
  nodup_keys_update (d := []) List.nodup_nil items

/-- What is collected of a function of the key, however often a key stands there. -/
theorem get?_collect_map (ks : List κ) (f : κ → α) (k : κ) :
    get? (collect (ks.map fun l => (l, f l))) k = if k ∈ ks then some (f k) else none := by
  have grown : ∀ d : Dict κ α, get? (update d (ks.map fun l => (l, f l))) k = if k ∈ ks then some
    (f k) else get? d k := by
    induction ks with
    | nil => simp [update_nil]
    | cons l rest ih =>
      intro d
      rw [List.map_cons, update_cons, ih, get?_set]
      by_cases same : l = k
      · subst same
        simp
      · by_cases later : k ∈ rest <;> simp [same, Ne.symm same, later]
  exact grown []

/-- Two dictionaries with the same keys, in the same order, and the same values. -/
theorem ext_get? {d e : Dict κ α} (same : keys d = keys e) (distinct : (keys d).Nodup)
    (reads : ∀ k, get? d k = get? e k) : d = e := by
  induction d generalizing e with
  | nil => exact (List.map_eq_nil_iff.mp same.symm).symm
  | cons item rest ih =>
    obtain ⟨k, v⟩ := item
    cases e with
    | nil => cases same
    | cons other rest' =>
      obtain ⟨l, w⟩ := other
      rw [keys_cons, keys_cons, List.cons.injEq] at same
      obtain ⟨rfl, tail⟩ := same
      rw [keys_cons, List.nodup_cons] at distinct
      have first := reads k
      rw [get?_cons, get?_cons, if_pos rfl, if_pos rfl] at first
      cases first
      refine congrArg _ (ih tail distinct.2 fun l => ?_)
      by_cases here : k = l
      · subst here
        rw [get?_of_not_mem distinct.1, get?_of_not_mem (tail ▸ distinct.1)]
      · have later := reads l
        rwa [get?_cons, get?_cons, if_neg here, if_neg here] at later

/-! ### Under other keys -/

omit [DecidableEq κ] in
theorem length_keys (d : Dict κ α) : (keys d).length = d.length := List.length_map _

theorem length_set (d : Dict κ α) (k : κ) (v : α) :
    (set d k v).length = if k ∈ keys d then d.length else d.length + 1 := by
  rw [← length_keys (set d k v), keys_set]
  split <;> simp [keys]

theorem erase_absent {d : Dict κ α} {k : κ} (absent : get? d k = none) : erase d k = d := by
  unfold erase
  rw [List.filter_eq_self]
  intro e member
  have other : e.1 ≠ k := fun same => (get?_eq_none_iff d k).mp absent (same ▸ mem_keys_of_mem member)
  simpa using other

/-- Without a key that was there it has one entry less. -/
theorem length_erase {d : Dict κ α} (distinct : (keys d).Nodup) {k : κ} {v : α} (read : get? d k = some v) :
    (erase d k).length + 1 = d.length := by
  induction d with
  | nil => cases read
  | cons item rest ih =>
    obtain ⟨l, w⟩ := item
    rw [keys_cons, List.nodup_cons] at distinct
    by_cases same : l = k
    · subst same
      have gone : erase ((l, w) :: rest) l = erase rest l := by simp [erase]
      rw [gone, erase_absent (get?_of_not_mem distinct.1), List.length_cons]
    · have stays : erase ((l, w) :: rest) k = (l, w) :: erase rest k := by simp [erase, same]
      rw [get?_cons, if_neg same] at read
      rw [stays, List.length_cons, List.length_cons, ih distinct.2 read]

/-- A comprehension is shorter than its items where two of them have one key. -/
theorem length_collect_iff {items : List (κ × α)} : (collect items).length = items.length ↔ (keys items).Nodup := by
  constructor
  · intro same
    have within : (keys (collect items)).length ≤ (keys items).dedup.length :=
      (nodup_keys_collect items).length_le_of_subset fun k held => List.mem_dedup.mpr (mem_keys_collect.mp held)
    rw [length_keys, same, ← length_keys items] at within
    exact List.dedup_eq_self.mp ((List.dedup_sublist _).eq_of_length_le within)
  · intro distinct
    rw [collect_eq_self distinct]

theorem length_collect_le (items : List (κ × α)) : (collect items).length ≤ items.length := by
  have within : (keys (collect items)).length ≤ (keys items).length :=
    (nodup_keys_collect items).length_le_of_subset fun k held => mem_keys_collect.mp held
  rwa [length_keys, length_keys] at within

/-- The entries under other keys; of two that come to one key, the later one stays. -/
def mapKeys (f : κ → κ) (d : Dict κ α) : Dict κ α := collect (d.map fun e => (f e.1, e.2))

omit [DecidableEq κ] in
theorem keys_map_key (f : κ → κ) (d : Dict κ α) : keys (d.map fun e => (f e.1, e.2)) = (keys d).map f := by
  simp [keys, Function.comp_def]

theorem mem_keys_mapKeys {f : κ → κ} {d : Dict κ α} {k : κ} : k ∈ keys (mapKeys f d) ↔ ∃ l ∈ keys d, f l = k := by
  unfold mapKeys
  rw [mem_keys_collect, keys_map_key, List.mem_map]

theorem length_mapKeys_le (f : κ → κ) (d : Dict κ α) : (mapKeys f d).length ≤ d.length := by
  simpa [mapKeys] using length_collect_le (d.map fun e => (f e.1, e.2))

/-- No entry is lost exactly when no two keys come to one. -/
theorem length_mapKeys_iff {d : Dict κ α} (distinct : (keys d).Nodup) (f : κ → κ) :
    (mapKeys f d).length = d.length ↔ ∀ k ∈ keys d, ∀ l ∈ keys d, f k = f l → k = l := by
  have counted : (mapKeys f d).length = d.length ↔ ((keys d).map f).Nodup := by
    rw [← keys_map_key, ← length_collect_iff, List.length_map]
    rfl
  rw [counted, List.nodup_map_iff_inj_on distinct]

theorem get?_mapKeys {d : Dict κ α} {f : κ → κ} (distinct : (keys d).Nodup)
    (apart : ∀ k ∈ keys d, ∀ l ∈ keys d, f k = f l → k = l) {k : κ} {v : α} (read : get? d k = some v) :
    get? (mapKeys f d) (f k) = some v := by
  have mapped : (keys (d.map fun e => (f e.1, e.2))).Nodup := by
    rw [keys_map_key]
    exact (List.nodup_map_iff_inj_on distinct).mpr apart
  unfold mapKeys
  rw [collect_eq_self mapped]
  exact mem_get? mapped (List.mem_map_of_mem (f := fun e => (f e.1, e.2)) (mem_of_get? read))

end Dict
