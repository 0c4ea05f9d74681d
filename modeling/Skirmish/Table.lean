/-!
Finite maps listed in ascending key order. Two tables with the same look-ups are equal.
-/

namespace Skirmish

universe u v

structure Table (κ : Type u) (α : Type v) [Ord κ] where
  entries : List (κ × α)
  ascending : entries.Pairwise fun a b => compare a.1 b.1 = .lt

namespace Table

variable {κ : Type u} {α : Type v} [Ord κ]

theorem ext : {s t : Table κ α} → s.entries = t.entries → s = t
  | ⟨_, _⟩, ⟨_, _⟩, rfl => rfl

instance [DecidableEq κ] [DecidableEq α] : DecidableEq (Table κ α) := fun s t =>
  if h : s.entries = t.entries then .isTrue (ext h) else .isFalse fun e => h (e ▸ rfl)

instance [BEq κ] [BEq α] : BEq (Table κ α) := ⟨fun s t => s.entries == t.entries⟩

def empty : Table κ α := ⟨[], .nil⟩

instance : EmptyCollection (Table κ α) := ⟨empty⟩

instance : Inhabited (Table κ α) := ⟨empty⟩

def find (k : κ) : List (κ × α) → Option α
  | [] => none
  | (k', v) :: rest => if compare k k' = .eq then some v else find k rest

def place (k : κ) (v : α) : List (κ × α) → List (κ × α)
  | [] => [(k, v)]
  | (k', v') :: rest =>
    match compare k k' with
    | .lt => (k, v) :: (k', v') :: rest
    | .eq => (k, v) :: rest
    | .gt => (k', v') :: place k v rest

theorem mem_place {k : κ} {v : α} {e : κ × α} {l : List (κ × α)} (h : e ∈ place k v l) :
    e = (k, v) ∨ e ∈ l := by
  induction l with
  | nil => simpa [place] using h
  | cons p rest ih =>
    obtain ⟨k', v'⟩ := p
    unfold place at h
    split at h <;> simp only [List.mem_cons] at h ⊢ <;> grind

theorem ascending_place [Std.TransOrd κ] [Std.LawfulEqOrd κ] (k : κ) (v : α) {l : List (κ × α)}
    (h : l.Pairwise fun a b => compare a.1 b.1 = .lt) :
    (place k v l).Pairwise fun a b => compare a.1 b.1 = .lt := by
  induction l with
  | nil => simp [place]
  | cons p rest ih =>
    obtain ⟨k', v'⟩ := p
    rw [List.pairwise_cons] at h
    unfold place
    split
    · rename_i hlt
      refine List.pairwise_cons.2 ⟨fun e he => ?_, List.pairwise_cons.2 h⟩
      rcases List.mem_cons.1 he with rfl | he
      · exact hlt
      · exact Std.TransCmp.lt_trans hlt (h.1 e he)
    · rename_i heq
      obtain rfl := Std.LawfulEqCmp.eq_of_compare heq
      exact List.pairwise_cons.2 ⟨fun e he => h.1 e he, h.2⟩
    · rename_i hgt
      refine List.pairwise_cons.2 ⟨fun e he => ?_, ih h.2⟩
      rcases mem_place he with rfl | he
      · exact Std.OrientedCmp.gt_iff_lt.1 hgt
      · exact h.1 e he

def get? (t : Table κ α) (k : κ) : Option α := find k t.entries

def contains (t : Table κ α) (k : κ) : Bool := (t.get? k).isSome

def insert [Std.TransOrd κ] [Std.LawfulEqOrd κ] (t : Table κ α) (k : κ) (v : α) : Table κ α :=
  ⟨place k v t.entries, ascending_place k v t.ascending⟩

def insertMany [Std.TransOrd κ] [Std.LawfulEqOrd κ] (t : Table κ α) (l : List (κ × α)) :
    Table κ α :=
  l.foldl (fun t e => t.insert e.1 e.2) t

def ofList [Std.TransOrd κ] [Std.LawfulEqOrd κ] (l : List (κ × α)) : Table κ α :=
  empty.insertMany l

def toList (t : Table κ α) : List (κ × α) := t.entries

def keys (t : Table κ α) : List κ := t.entries.map (·.1)

def values (t : Table κ α) : List α := t.entries.map (·.2)

def size (t : Table κ α) : Nat := t.entries.length

def isEmpty (t : Table κ α) : Bool := t.entries.isEmpty

@[simp] theorem get?_empty (k : κ) : (empty : Table κ α).get? k = none := rfl

theorem find_place [Std.TransOrd κ] [Std.LawfulEqOrd κ] [DecidableEq κ] (k k' : κ) (v : α)
    (l : List (κ × α)) : find k' (place k v l) = if k' = k then some v else find k' l := by
  induction l with
  | nil =>
    by_cases h : k' = k
    · subst h; simp [place, find, Std.ReflCmp.compare_self]
    · simp [place, find, h]
  | cons p rest ih =>
    obtain ⟨k₁, v₁⟩ := p
    unfold place
    split
    · by_cases h : k' = k
      · subst h; simp [find, Std.ReflCmp.compare_self]
      · simp [find, h]
    · rename_i heq
      obtain rfl := Std.LawfulEqCmp.eq_of_compare heq
      by_cases h : k' = k
      · subst h; simp [find, Std.ReflCmp.compare_self]
      · simp [find, h]
    · rename_i hgt
      by_cases h : k' = k
      · subst h
        simp [find, hgt, ih]
      · simp [find, h, ih]

theorem length_place {k : κ} {v : α} {l : List (κ × α)} (fresh : find k l = none) :
    (place k v l).length = l.length + 1 := by
  induction l with
  | nil => rfl
  | cons p rest ih =>
    unfold find at fresh
    unfold place
    split at fresh
    · cases fresh
    · split
      · rfl
      · contradiction
      · rw [List.length_cons, ih fresh, List.length_cons]

theorem size_insert [Std.TransOrd κ] [Std.LawfulEqOrd κ] {t : Table κ α} {k : κ} {v : α}
    (fresh : t.get? k = none) : (t.insert k v).size = t.size + 1 :=
  length_place fresh

theorem get?_insert [Std.TransOrd κ] [Std.LawfulEqOrd κ] [DecidableEq κ] (t : Table κ α)
    (k k' : κ) (v : α) :
    (t.insert k v).get? k' = if k' = k then some v else t.get? k' :=
  find_place k k' v t.entries

@[simp] theorem get?_insert_self [Std.TransOrd κ] [Std.LawfulEqOrd κ] (t : Table κ α)
    (k : κ) (v : α) :
    (t.insert k v).get? k = some v := by
  classical
  simp [get?_insert]

theorem find_eq_some_iff [Std.TransOrd κ] [Std.LawfulEqOrd κ] {l : List (κ × α)}
    (h : l.Pairwise fun a b => compare a.1 b.1 = .lt) {k : κ} {v : α} :
    find k l = some v ↔ (k, v) ∈ l := by
  induction l with
  | nil => simp [find]
  | cons p rest ih =>
    obtain ⟨k₁, v₁⟩ := p
    rw [List.pairwise_cons] at h
    by_cases hk : compare k k₁ = .eq
    · obtain rfl := Std.LawfulEqCmp.eq_of_compare hk
      simp only [find, hk, if_true, Option.some.injEq, List.mem_cons, Prod.mk.injEq]
      refine ⟨fun e => .inl ⟨trivial, e.symm⟩, fun e => ?_⟩
      rcases e with ⟨_, rfl⟩ | hm
      · rfl
      · exact absurd (h.1 _ hm) (by simp [Std.ReflCmp.compare_self])
    · have hne : k ≠ k₁ := fun e => hk (e ▸ Std.ReflCmp.compare_self)
      simp [find, hk, ih h.2, hne]

theorem get?_eq_some_iff [Std.TransOrd κ] [Std.LawfulEqOrd κ] {t : Table κ α} {k : κ} {v : α} :
    t.get? k = some v ↔ (k, v) ∈ t.entries :=
  find_eq_some_iff t.ascending

theorem mem_keys [Std.TransOrd κ] [Std.LawfulEqOrd κ] {t : Table κ α} {k : κ} :
    k ∈ t.keys ↔ ∃ v, t.get? k = some v := by
  simp [keys, get?_eq_some_iff]

theorem nodup_keys [Std.ReflOrd κ] (t : Table κ α) : t.keys.Nodup := by
  refine List.Pairwise.map _ (fun a b ascends same => ?_) t.ascending
  simp [same, Std.ReflCmp.compare_self] at ascends

theorem entries_eq_of_mem [Std.TransOrd κ] : {l m : List (κ × α)} →
    l.Pairwise (fun a b => compare a.1 b.1 = .lt) → m.Pairwise (fun a b => compare a.1 b.1 = .lt) →
    (∀ e, e ∈ l ↔ e ∈ m) → l = m
  | [], [], _, _, _ => rfl
  | [], e :: _, _, _, h => absurd ((h e).2 (by simp)) (by simp)
  | e :: _, [], _, _, h => absurd ((h e).1 (by simp)) (by simp)
  | e :: l, e' :: m, hl, hm, h => by
    rw [List.pairwise_cons] at hl hm
    have head : e = e' := by
      rcases List.mem_cons.1 ((h e).1 (by simp)) with he | he
      · exact he
      · rcases List.mem_cons.1 ((h e').2 (by simp)) with he' | he'
        · exact he'.symm
        · have := Std.TransCmp.lt_trans (hl.1 _ he') (hm.1 _ he)
          simp [Std.ReflCmp.compare_self] at this
    subst head
    have fresh {n : List (κ × α)} (hn : ∀ a ∈ n, compare e.1 a.1 = .lt) : e ∉ n := fun he => by
      simpa [Std.ReflCmp.compare_self] using hn e he
    refine congrArg (e :: ·) (entries_eq_of_mem hl.2 hm.2 fun a => ?_)
    have := h a
    simp only [List.mem_cons] at this
    refine ⟨fun ha => ?_, fun ha => ?_⟩
    · exact (this.1 (.inr ha)).resolve_left fun he => fresh hl.1 (he ▸ ha)
    · exact (this.2 (.inr ha)).resolve_left fun he => fresh hm.1 (he ▸ ha)

theorem place_of_forall_lt [Std.OrientedOrd κ] {k : κ} {v : α} : {l : List (κ × α)} →
    (∀ e ∈ l, compare e.1 k = .lt) → place k v l = l ++ [(k, v)]
  | [], _ => rfl
  | e :: rest, h => by
    have hk : compare k e.1 = .gt := Std.OrientedCmp.gt_iff_lt.2 (h e (by simp))
    simp only [place, hk, List.cons_append]
    rw [place_of_forall_lt fun e he => h e (List.mem_cons_of_mem _ he)]

theorem entries_insertMany [Std.TransOrd κ] [Std.LawfulEqOrd κ] {l : List (κ × α)} {t : Table κ α}
    (h : (t.entries ++ l).Pairwise fun a b => compare a.1 b.1 = .lt) :
    (t.insertMany l).entries = t.entries ++ l := by
  induction l generalizing t with
  | nil => simp [insertMany]
  | cons e rest ih =>
    have he : (t.insert e.1 e.2).entries = t.entries ++ [e] :=
      place_of_forall_lt fun a ha => (List.pairwise_append.1 h).2.2 a ha e (by simp)
    have := @ih (t.insert e.1 e.2) (by simpa [he] using h)
    simpa [insertMany, he] using this

@[simp] theorem insertMany_nil [Std.TransOrd κ] [Std.LawfulEqOrd κ] (t : Table κ α) :
    t.insertMany [] = t := rfl

@[simp] theorem insertMany_append [Std.TransOrd κ] [Std.LawfulEqOrd κ] (t : Table κ α)
    (l m : List (κ × α)) : t.insertMany (l ++ m) = (t.insertMany l).insertMany m := by
  simp [insertMany]

theorem lookup_single {κ : Type u} {α : Type v} [DecidableEq κ] (k : κ) (e : κ × α) :
    [e].lookup k = if k = e.1 then some e.2 else none := by
  rw [List.lookup_cons, List.lookup_nil]
  by_cases h : k = e.1
  · rw [if_pos h, beq_iff_eq.2 h]
  · rw [if_neg h, beq_false_of_ne h]

theorem get?_insertMany [Std.TransOrd κ] [Std.LawfulEqOrd κ] [DecidableEq κ] (t : Table κ α)
    (l : List (κ × α)) (k : κ) : (t.insertMany l).get? k = (l.reverse.lookup k).or (t.get? k) := by
  induction l generalizing t with
  | nil => simp
  | cons e rest ih =>
    have first : (t.insertMany (e :: rest)) = (t.insert e.1 e.2).insertMany rest := rfl
    rw [first, ih, get?_insert, List.reverse_cons, List.lookup_append, Option.or_assoc, lookup_single]
    by_cases h : k = e.1 <;> simp [h]

theorem lookup_eq_some_iff_mem {κ : Type u} {α : Type v} [DecidableEq κ] {l : List (κ × α)} {k : κ}
    (single : ∀ v v', (k, v) ∈ l → (k, v') ∈ l → v = v') (v : α) :
    l.lookup k = some v ↔ (k, v) ∈ l := by
  constructor
  · intro found
    obtain ⟨before, after, rfl, -⟩ := List.lookup_eq_some_iff.1 found
    simp
  · intro mem
    cases found : l.lookup k with
    | none => simpa using List.lookup_eq_none_iff.1 found (k, v) mem
    | some v' =>
      obtain ⟨before, after, rfl, -⟩ := List.lookup_eq_some_iff.1 found
      exact congrArg some (single v' v (by simp) mem)

theorem get?_ofList_eq_some_iff [Std.TransOrd κ] [Std.LawfulEqOrd κ] [DecidableEq κ]
    {l : List (κ × α)} {k : κ} (single : ∀ v v', (k, v) ∈ l → (k, v') ∈ l → v = v') (v : α) :
    (ofList l).get? k = some v ↔ (k, v) ∈ l := by
  rw [ofList, get?_insertMany, get?_empty, Option.or_none, ← List.mem_reverse]
  apply lookup_eq_some_iff_mem
  simpa using single

theorem mem_of_perm [Std.TransOrd κ] [Std.LawfulEqOrd κ] {t : Table κ α} {l : List (κ × α)}
    (h : l.Perm t.toList) (k : κ) (v : α) : (k, v) ∈ l ↔ t.get? k = some v := by
  rw [get?_eq_some_iff]
  exact h.mem_iff

/-- Whatever the order in which a table's entries are listed, a look-up in the list is one in the
table. -/
theorem lookup_of_perm [Std.TransOrd κ] [Std.LawfulEqOrd κ] [DecidableEq κ] {t : Table κ α}
    {l : List (κ × α)} (h : l.Perm t.toList) (k : κ) : l.lookup k = t.get? k := by
  have mem := mem_of_perm h k
  apply Option.ext
  intro v
  rw [lookup_eq_some_iff_mem, mem]
  intro v v' first second
  exact Option.some.inj (((mem v).1 first).symm.trans ((mem v').1 second))

theorem ext_get? [Std.TransOrd κ] [Std.LawfulEqOrd κ] {s t : Table κ α}
    (h : ∀ k, s.get? k = t.get? k) : s = t :=
  ext <| entries_eq_of_mem s.ascending t.ascending fun ⟨k, v⟩ => by
    rw [← get?_eq_some_iff, ← get?_eq_some_iff, h k]

theorem ofList_of_perm [Std.TransOrd κ] [Std.LawfulEqOrd κ] [DecidableEq κ] {t : Table κ α}
    {l : List (κ × α)} (h : l.Perm t.toList) : ofList l = t := by
  apply ext_get?
  intro k
  rw [ofList, get?_insertMany, get?_empty, Option.or_none]
  exact lookup_of_perm (l.reverse_perm.trans h) k

end Table

end Skirmish
