import Mathlib.Data.List.Basic

/-!
Dictionaries in insertion order. Writing to a key that is present replaces its value where it
stands; writing to a new key appends it. Every lookup reads the first entry of a key, so no
lemma below needs the keys to be distinct.
-/

/-- A dictionary as the list of its items, in insertion order. -/
abbrev Dict (κ α : Type) := List (κ × α)

namespace Dict
variable {κ α β : Type} [DecidableEq κ]

def get? (d : Dict κ α) (k : κ) : Option α :=
  match d with
  | [] => none
  | (l, v) :: rest => if l = k then some v else get? rest k

def contains (d : Dict κ α) (k : κ) : Bool := (get? d k).isSome

def set (d : Dict κ α) (k : κ) (v : α) : Dict κ α :=
  match d with
  | [] => [(k, v)]
  | (l, w) :: rest => if l = k then (k, v) :: rest else (l, w) :: set rest k v

/-- `d.setdefault(k, v)`: the dictionary after it. -/
def setDefault (d : Dict κ α) (k : κ) (v : α) : Dict κ α := if contains d k then d else set d k v

def erase (d : Dict κ α) (k : κ) : Dict κ α := d.filter fun e => e.1 ≠ k

/-- `{**d, **e}`: the items of `e` written over `d`, one after another. -/
def update (d e : Dict κ α) : Dict κ α := e.foldl (fun acc item => set acc item.1 item.2) d

/-- A dictionary comprehension: later items of a key win. -/
def collect (items : List (κ × α)) : Dict κ α := update [] items

def keys (d : Dict κ α) : List κ := d.map Prod.fst

@[simp] theorem get?_nil (k : κ) : get? ([] : Dict κ α) k = none := rfl

@[simp] theorem get?_cons (k l : κ) (v : α) (d : Dict κ α) :
    get? ((l, v) :: d) k = if l = k then some v else get? d k := rfl

@[simp] theorem get?_set (d : Dict κ α) (k l : κ) (v : α) :
    get? (set d k v) l = if k = l then some v else get? d l := by
  induction d with
  | nil => rfl
  | cons item rest ih =>
    obtain ⟨m, w⟩ := item
    unfold set
    by_cases same : m = k
    · subst same
      by_cases here : m = l <;> simp [here]
    · by_cases here : m = l
      · subst here
        simp [same, Ne.symm same]
      · simp [same, here, ih]

theorem get?_set_self (d : Dict κ α) (k : κ) (v : α) : get? (set d k v) k = some v := by simp

theorem get?_set_other (d : Dict κ α) {k l : κ} (v : α) (different : k ≠ l) :
    get? (set d k v) l = get? d l := by simp [different]

@[simp] theorem get?_erase (d : Dict κ α) (k l : κ) :
    get? (erase d k) l = if k = l then none else get? d l := by
  induction d with
  | nil => simp [erase]
  | cons item rest ih =>
    obtain ⟨m, w⟩ := item
    unfold erase at ih ⊢
    by_cases same : m = k
    · subst same
      simp only [List.filter_cons, ne_eq, not_true_eq_false, decide_false, Bool.false_eq_true,
        if_false, ih, get?_cons]
      split <;> rfl
    · simp only [List.filter_cons, ne_eq, same, not_false_eq_true, decide_true, if_true, get?_cons, ih]
      by_cases here : m = l
      · subst here
        simp [Ne.symm same]
      · simp [here]

theorem get?_erase_self (d : Dict κ α) (k : κ) : get? (erase d k) k = none := by simp

theorem contains_iff (d : Dict κ α) (k : κ) : contains d k = true ↔ ∃ v, get? d k = some v := by
  simp [contains, Option.isSome_iff_exists]

@[simp] theorem contains_set (d : Dict κ α) (k l : κ) (v : α) :
    contains (set d k v) l = (decide (k = l) || contains d l) := by
  by_cases same : k = l <;> simp [contains, same]

theorem contains_of_set {d : Dict κ α} {k l : κ} {v : α} (held : contains (set d k v) l = true) :
    k = l ∨ contains d l = true := by
  rwa [contains_set, Bool.or_eq_true, decide_eq_true_eq] at held

theorem update_nil (d : Dict κ α) : update d [] = d := rfl

theorem update_cons (d e : Dict κ α) (k : κ) (v : α) :
    update d ((k, v) :: e) = update (set d k v) e := rfl

theorem get?_update_absent {d e : Dict κ α} {k : κ} (absent : k ∉ keys e) :
    get? (update d e) k = get? d k := by
  induction e generalizing d with
  | nil => rfl
  | cons item rest ih =>
    obtain ⟨l, v⟩ := item
    simp only [keys, List.map_cons, List.mem_cons, not_or] at absent
    rw [update_cons, ih absent.2, get?_set_other _ _ (Ne.symm absent.1)]

theorem mem_keys_iff (d : Dict κ α) (k : κ) : k ∈ keys d ↔ contains d k = true := by
  induction d with
  | nil => simp [keys, contains]
  | cons item rest ih =>
    obtain ⟨l, v⟩ := item
    simp only [keys, contains, List.map_cons, List.mem_cons, get?_cons] at ih ⊢
    by_cases same : l = k
    · simp [same]
    · simp only [same, if_false, ← ih]
      exact ⟨fun h => h.resolve_left (Ne.symm same), .inr⟩

theorem get?_of_not_mem {d : Dict κ α} {k : κ} (absent : k ∉ keys d) : get? d k = none := by
  rw [mem_keys_iff, contains] at absent
  simpa using absent

theorem mem_of_get? {d : Dict κ α} {k : κ} {v : α} (read : get? d k = some v) : (k, v) ∈ d := by
  induction d with
  | nil => simp at read
  | cons item rest ih =>
    obtain ⟨l, w⟩ := item
    rw [get?_cons] at read
    split at read
    · rename_i same
      subst same
      simp only [Option.some.injEq] at read
      simp [read]
    · exact List.mem_cons_of_mem _ (ih read)

/-! ### Distinct keys -/

omit [DecidableEq κ] in
theorem keys_cons (d : Dict κ α) (k : κ) (v : α) : keys ((k, v) :: d) = k :: keys d := rfl

theorem keys_set (d : Dict κ α) (k : κ) (v : α) :
    keys (set d k v) = if k ∈ keys d then keys d else keys d ++ [k] := by
  induction d with
  | nil => rfl
  | cons item rest ih =>
    obtain ⟨l, w⟩ := item
    unfold set
    by_cases same : l = k
    · subst same
      simp [keys_cons]
    · have other : ¬ k = l := fun h => same h.symm
      rw [if_neg same, keys_cons, keys_cons, ih]
      by_cases member : k ∈ keys rest
      · rw [if_pos member, if_pos (List.mem_cons_of_mem _ member)]
      · rw [if_neg member, if_neg (by simp [other, member]), List.cons_append]

theorem nodup_keys_update {d : Dict κ α} (distinct : (keys d).Nodup) (e : Dict κ α) :
    (keys (update d e)).Nodup := by
  induction e generalizing d with
  | nil => exact distinct
  | cons item rest ih =>
    obtain ⟨k, v⟩ := item
    rw [update_cons]
    apply ih
    rw [keys_set]
    split
    · exact distinct
    · rename_i absent
      rw [List.nodup_append]
      refine ⟨distinct, by simp, ?_⟩
      intro l member m new same
      rw [List.mem_singleton.mp new] at same
      exact absent (same ▸ member)

theorem set_absent {d : Dict κ α} {k : κ} (absent : k ∉ keys d) (v : α) : set d k v = d ++ [(k, v)] := by
  induction d with
  | nil => rfl
  | cons item rest ih =>
    obtain ⟨l, w⟩ := item
    simp only [keys, List.map_cons, List.mem_cons, not_or] at absent
    unfold set
    rw [if_neg (Ne.symm absent.1), ih absent.2]
    rfl

theorem collect_eq_self {d : Dict κ α} (distinct : (keys d).Nodup) : collect d = d := by
  have grown : ∀ (e acc : Dict κ α), (keys (acc ++ e)).Nodup → update acc e = acc ++ e := by
    intro e
    induction e with
    | nil => simp [update_nil]
    | cons item rest ih =>
      obtain ⟨k, v⟩ := item
      intro acc distinct
      have absent : k ∉ keys acc := by
        intro member
        rw [keys, List.map_append, List.nodup_append] at distinct
        exact distinct.2.2 k member k (by simp) rfl
      rw [update_cons, set_absent absent]
      have shifted : (keys ((acc ++ [(k, v)]) ++ rest)).Nodup := by simpa using distinct
      rw [ih _ shifted]
      simp
  simpa [collect] using grown d [] (by simpa using distinct)

/-! ### Dictionaries that lose entries -/

/-- Every entry of the first is an entry of the second. -/
def Sub (d e : Dict κ α) : Prop := ∀ k v, get? d k = some v → get? e k = some v

theorem Sub.refl (d : Dict κ α) : Sub d d := fun _ _ => id

theorem Sub.trans {d e f : Dict κ α} (first : Sub d e) (second : Sub e f) : Sub d f :=
  fun k v read => second k v (first k v read)

theorem Sub.contains {d e : Dict κ α} (sub : Sub d e) {k : κ} (held : contains d k = true) :
    contains e k = true := by
  obtain ⟨v, read⟩ := (contains_iff _ _).mp held
  exact (contains_iff _ _).mpr ⟨v, sub k v read⟩

theorem sub_erase (d : Dict κ α) (k : κ) : Sub (erase d k) d := by
  intro l v read
  rw [get?_erase] at read
  split at read
  · cases read
  · exact read

theorem sub_erases (keys : List κ) (d : Dict κ α) : Sub (keys.foldl erase d) d := by
  induction keys generalizing d with
  | nil => exact .refl d
  | cons k rest ih => exact (ih (erase d k)).trans (sub_erase d k)

end Dict
