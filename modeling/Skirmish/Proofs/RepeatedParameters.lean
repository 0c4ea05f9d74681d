import Skirmish.Combat.Parameters
import Mathlib.Data.List.Induction
import Mathlib.Data.List.Nodup

namespace Skirmish

section Repetition

variable {α β : Type} {key : α → β}

theorem nodup_map_concat {l : List α} {e : α} :
    ((l ++ [e]).map key).Nodup ↔ key e ∉ l.map key ∧ (l.map key).Nodup := by
  rw [List.map_append, List.map_singleton, List.nodup_middle, List.append_nil, List.nodup_cons]

theorem exists_first_repeated {l : List α} (h : ¬(l.map key).Nodup) :
    ∃ before e after, l = before ++ e :: after ∧ (before.map key).Nodup ∧
      key e ∈ before.map key := by
  induction l using List.reverseRecOn with
  | nil => exact absurd List.nodup_nil h
  | append_singleton front e ih =>
    by_cases distinct : (front.map key).Nodup
    · have repeated : key e ∈ front.map key :=
        by_contra fun fresh => h (nodup_map_concat.2 ⟨fresh, distinct⟩)
      exact ⟨front, e, [], rfl, distinct, repeated⟩
    · obtain ⟨before, first, after, rfl, distinct, repeated⟩ := ih distinct
      exact ⟨before, first, after ++ [e], by simp, distinct, repeated⟩

end Repetition

namespace ParameterTable

structure Holds (t : ParameterTable) (l : List ParameterEntry) : Prop where
  distinct : (l.map (·.id)).Nodup
  size : t.size = l.length
  found (id : FormulaId) (e : ParameterEntry) : t.get? id = some e ↔ e ∈ l ∧ e.id = id

namespace Holds

variable {s t : ParameterTable} {l m : List ParameterEntry} {e : ParameterEntry}

theorem empty : ParameterTable.empty.Holds [] where
  distinct := List.nodup_nil
  size := rfl
  found id e := by simp [ParameterTable.empty, get?]

theorem get?_eq_none_iff (h : t.Holds l) {id : FormulaId} :
    t.get? id = none ↔ id ∉ l.map (·.id) := by
  simp only [Option.eq_none_iff_forall_ne_some, ne_eq, h.found, List.mem_map, not_exists]

theorem insertNew (h : t.Holds l) (fresh : e.id ∉ l.map (·.id)) :
    ∃ t', t.insertNew e = .ok t' ∧ t'.Holds (l ++ [e]) := by
  have absent : t.get? e.id = none := h.get?_eq_none_iff.2 fresh
  refine ⟨_, insertNew_of_get?_eq_none absent, nodup_map_concat.2 ⟨fresh, h.distinct⟩,
    ?size, ?found⟩
  case size =>
    rw [List.length_append, ← h.size]
    exact Table.size_insert absent
  case found =>
    intro id old
    rw [get?, Table.get?_insert, List.mem_append, List.mem_singleton]
    split
    case isTrue same =>
      subst same
      refine ⟨fun same => ?_, ?_⟩
      · obtain rfl := Option.some.inj same
        exact ⟨.inr rfl, rfl⟩
      · rintro ⟨listed | rfl, same⟩
        · exact absurd (List.mem_map.2 ⟨old, listed, same⟩) fresh
        · rfl
    case isFalse other =>
      rw [show t.entries.get? id = t.get? id from rfl, h.found]
      refine and_congr_left fun same => (or_iff_left ?_).symm
      rintro rfl
      exact other same.symm

theorem insertNew_repeated (h : t.Holds l) (repeated : e.id ∈ l.map (·.id)) :
    t.insertNew e = .error (.duplicateParameters e.id) := by
  cases found : t.get? e.id with
  | none => exact absurd repeated (h.get?_eq_none_iff.1 found)
  | some old => exact insertNew_of_get?_eq_some found

theorem perm (h : t.Holds l) (order : m.Perm l) : t.Holds m where
  distinct := (order.map _).nodup_iff.2 h.distinct
  size := h.size.trans order.length_eq.symm
  found id e := (h.found id e).trans (and_congr_left' order.mem_iff.symm)

theorem eq (h : s.Holds l) (h' : t.Holds l) : s = t := by
  have same : s.entries = t.entries := Table.ext_get? fun id => Option.ext fun e =>
    (h.found id e).trans (h'.found id e).symm
  obtain ⟨_⟩ := s
  obtain rfl := same
  rfl

end Holds

variable {l before after : List ParameterEntry} {e : ParameterEntry}

theorem ofEntries_append {t : ParameterTable} (built : ofEntries before = .ok t) :
    ofEntries (before ++ after) = after.foldlM insertNew t := by
  rw [ofEntries, List.foldlM_append, ← ofEntries, built]
  rfl

theorem exists_holds (distinct : (l.map (·.id)).Nodup) : ∃ t, ofEntries l = .ok t ∧ t.Holds l := by
  -- The table so far holds the entries in front, among which the identifier of the next is not.
  induction l using List.reverseRecOn with
  | nil => exact ⟨empty, rfl, .empty⟩
  | append_singleton front e ih =>
    obtain ⟨fresh, distinct⟩ := nodup_map_concat.1 distinct
    obtain ⟨t, built, held⟩ := ih distinct
    obtain ⟨t', accepted, held'⟩ := held.insertNew fresh
    refine ⟨t', ?_, held'⟩
    rw [ofEntries_append built, List.foldlM_cons, accepted]
    rfl

theorem ofEntries_repeated (distinct : (before.map (·.id)).Nodup)
    (repeated : e.id ∈ before.map (·.id)) :
    ofEntries (before ++ e :: after) = .error (.duplicateParameters e.id) := by
  obtain ⟨t, built, held⟩ := exists_holds distinct
  rw [ofEntries_append built, List.foldlM_cons, held.insertNew_repeated repeated]
  rfl

theorem exists_repeated (h : ¬(l.map (·.id)).Nodup) :
    ∃ before e after, l = before ++ e :: after ∧ (before.map (·.id)).Nodup ∧
      e.id ∈ before.map (·.id) ∧ ofEntries l = .error (.duplicateParameters e.id) := by
  obtain ⟨before, e, after, rfl, distinct, repeated⟩ := exists_first_repeated h
  exact ⟨before, e, after, rfl, distinct, repeated, ofEntries_repeated distinct repeated⟩

theorem holds_of_ofEntries {t : ParameterTable} (built : ofEntries l = .ok t) : t.Holds l := by
  by_cases distinct : (l.map (·.id)).Nodup
  · obtain ⟨t', built', held⟩ := exists_holds distinct
    obtain rfl : t' = t := Except.ok.inj (built'.symm.trans built)
    exact held
  · obtain ⟨before, e, after, -, -, -, rejected⟩ := exists_repeated distinct
    cases built.symm.trans rejected

/-- A list of entries is rejected if it repeats an identifier, and the first entry to do so is the
one told. Otherwise it makes up a table with its entries, to which their order does not matter. -/
theorem ofEntries_rejects_repeated (l : List ParameterEntry) :
    ((∃ t, ofEntries l = .ok t) ↔ (l.map (·.id)).Nodup) ∧
      (∀ t, ofEntries l = .ok t →
        t.size = l.length ∧
        (∀ id e, t.get? id = some e ↔ e ∈ l ∧ e.id = id) ∧
        (∀ id, t.get? id = none ↔ id ∉ l.map (·.id)) ∧
        ∀ m : List ParameterEntry, m.Perm l → ∃ t', ofEntries m = .ok t' ∧
          t'.size = t.size ∧ (∀ id, t'.get? id = t.get? id) ∧
          ∀ id constants, t'.contextFor id constants = t.contextFor id constants) ∧
      ∀ v, ofEntries l = .error v ↔ ∃ before e after, l = before ++ e :: after ∧
        (before.map (·.id)).Nodup ∧ e.id ∈ before.map (·.id) ∧ v = .duplicateParameters e.id ∧
        v.message =
          s!"Configuration validation error: duplicate parameters for formula {e.id}" := by
  refine ⟨⟨?distinct, ?accepted⟩, ?table, fun v => ⟨?rejected, ?repeated⟩⟩
  case distinct =>
    rintro ⟨t, built⟩
    exact (holds_of_ofEntries built).distinct
  case accepted =>
    intro distinct
    obtain ⟨t, built, -⟩ := exists_holds distinct
    exact ⟨t, built⟩
  case table =>
    intro t built
    have held := holds_of_ofEntries built
    refine ⟨held.size, held.found, fun id => held.get?_eq_none_iff, fun m order => ?_⟩
    have reordered := held.perm order
    obtain ⟨t', built', held'⟩ := exists_holds reordered.distinct
    obtain rfl : t' = t := held'.eq reordered
    exact ⟨t', built', rfl, fun id => rfl, fun id constants => rfl⟩
  case rejected =>
    intro rejected
    by_cases distinct : (l.map (·.id)).Nodup
    · obtain ⟨t, built, -⟩ := exists_holds distinct
      rw [built] at rejected
      cases rejected
    · obtain ⟨before, e, after, rfl, distinct, repeated, first⟩ := exists_repeated distinct
      obtain rfl := Except.error.inj (rejected.symm.trans first)
      exact ⟨before, e, after, rfl, distinct, repeated, rfl, rfl⟩
  case repeated =>
    rintro ⟨before, e, after, rfl, distinct, repeated, rfl, -⟩
    exact ofEntries_repeated distinct repeated

example : ofEntries [{ id := 7 }, { id := 5 }, { id := 5 }, { id := 7 }] =
    .error (.duplicateParameters 5) := rfl

end ParameterTable

end Skirmish
