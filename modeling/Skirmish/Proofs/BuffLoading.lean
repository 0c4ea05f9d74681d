import Skirmish.Config.Entities
import Skirmish.Entity.KindsJson
import Skirmish.Proofs.BuffGroups

/-!
Ledgers that are loaded. A document's buffs are taken as they stand, so a ledger may come to hold an
identifier twice: a query by identifier then sees the first entry alone, a query by tag sees all. A
loaded ledger answers like the one that the same buffs build exactly if no identifier is repeated,
and no buff that is added later changes that.
-/

namespace Skirmish

theorem EntityState.buffs_of_ofToml {before after : Toml.Entries} {v : Toml.Value} {s : EntityState}
    (last : ∀ e ∈ after, e.1 ≠ "buffs") (h : ofToml (before ++ ("buffs", v) :: after) = .ok s) :
    v.readList Buff.ofToml = .ok s.buffs.buffs := by
  rw [ofToml, List.foldlM_append] at h
  obtain ⟨start, -, h⟩ := exists_of_bind_eq_ok h
  rw [List.foldlM_cons] at h
  obtain ⟨read, step, rest⟩ := exists_of_bind_eq_ok h
  have kept : s.buffs = read.buffs := by
    apply foldlM_keeps (g := EntityState.buffs) _ rest
    rintro ⟨key, w⟩ mem b c h
    dsimp only at h
    split at h
    · obtain ⟨attributes, -, e⟩ := exists_of_bind_eq_ok h
      cases e
      rfl
    · exact absurd rfl (last _ mem)
    · obtain ⟨position, -, e⟩ := exists_of_bind_eq_ok h
      cases e
      rfl
    · cases h
      rfl
  obtain ⟨l, hl, e⟩ := exists_of_bind_eq_ok step
  cases e
  rw [kept, hl]

namespace BuffLedger

open Buff (group)

structure SameNumbers (a b : BuffLedger) : Prop where
  size : a.size = b.size
  count (id : BuffId) : a.count id = b.count id
  leftTime (id : BuffId) : a.leftTime id = b.leftTime id
  interval (id : BuffId) : a.interval id = b.interval id
  countByTag (tag : BuffTag) : a.countByTag tag = b.countByTag tag

theorem SameNumbers.refl (ledger : BuffLedger) : ledger.SameNumbers ledger :=
  ⟨rfl, fun _ => rfl, fun _ => rfl, fun _ => rfl, fun _ => rfl⟩

theorem addTo_of_notMem {new : Buff} {buffs : List Buff} (h : new.id ∉ buffs.map (·.id)) :
    addTo new buffs = buffs ++ [new] := by
  induction buffs with
  | nil => rfl
  | cons b rest ih =>
    rw [List.map_cons, List.mem_cons, not_or] at h
    rw [addTo, if_neg (Ne.symm h.1), ih h.2, List.cons_append]

theorem ofList_of_nodup {l : List Buff} (h : (l.map (·.id)).Nodup) : ofList l = ⟨l⟩ := by
  induction l using List.reverseRecOn with
  | nil => rfl
  | append_singleton l b ih =>
    rw [List.map_append, List.map_singleton, List.nodup_append] at h
    obtain ⟨distinct, -, fresh⟩ := h
    have fresh : b.id ∉ l.map (·.id) := fun mem => fresh _ mem _ (List.mem_singleton_self _) rfl
    rw [ofList_concat, ih distinct, add, addTo_of_notMem fresh]

theorem nodup_ids_add_iff (ledger : BuffLedger) (new : Buff) :
    (ledger.add new).ids.Nodup ↔ ledger.ids.Nodup := by
  refine ⟨fun h => ?_, fun h => nodup_ids_add h new⟩
  rw [ids_add] at h
  split at h
  · exact h
  · exact (List.nodup_append.1 h).1

theorem nodup_ids_foldl_add_iff (ledger : BuffLedger) (later : List Buff) :
    (later.foldl add ledger).ids.Nodup ↔ ledger.ids.Nodup := by
  induction later generalizing ledger with
  | nil => rfl
  | cons b later ih => rw [List.foldl_cons, ih, nodup_ids_add_iff]

section Loaded

variable (l : List Buff) (id : BuffId)

theorem get?_loaded : (⟨l⟩ : BuffLedger).get? id = (group id l).head? := by
  rw [get?, find, group, List.head?_filter]
  rfl

theorem interval_loaded : (⟨l⟩ : BuffLedger).interval id = (ofList l).interval id := by
  rw [interval_ofList, interval, get?_loaded]
  cases (group id l).head? <;> rfl

theorem toInt_count_loaded : ((⟨l⟩ : BuffLedger).count id).toInt =
    ((group id l).head?.map (·.stackCount.toNat)).getD 0 := by
  rw [count, get?_loaded]
  cases (group id l).head? with
  | none => rfl
  | some b => exact toInt_toInt64 b.stackCount

theorem count_loaded_eq_iff (fits : ((group id l).map (·.stackCount.toNat)).sum ≤ 4294967295) :
    (⟨l⟩ : BuffLedger).count id = (ofList l).count id ↔
      ((group id l).tail.map (·.stackCount.toNat)).sum = 0 := by
  rw [← Int64.toInt_inj, toInt_count_loaded, toInt_count_ofList l id fits]
  cases group id l with
  | nil => simp
  | cons b rest =>
    simp only [List.head?_cons, Option.map_some, Option.getD_some, List.tail_cons, List.map_cons,
      List.sum_cons]
    omega

theorem nodup_of_size_eq (h : (⟨l⟩ : BuffLedger).size = (ofList l).size) :
    (l.map (·.id)).Nodup := by
  have distinct := nodup_ids_ofList l
  have sub : (ofList l).ids.Subperm (l.map (·.id)) := distinct.subperm fun _ => mem_ids_ofList.1
  have le : (l.map (·.id)).length ≤ (ofList l).ids.length := by
    rw [← size_eq_length_ids, ← h, List.length_map]
    exact Nat.le_refl _
  exact (sub.perm_of_length_le le).nodup_iff.1 distinct

end Loaded

/-- Loading gives the ledger that adding gives exactly if no identifier is repeated. A repeated one
stays, whatever is added later, and hides the stacks of all its buffs but the first. -/
theorem loaded_sameNumbers_iff (l : List Buff) :
    let loaded : BuffLedger := ⟨l⟩
    let added := ofList l
    ofJson? loaded.toJson = some loaded ∧
      (∀ before after v s, (∀ e ∈ after, e.1 ≠ "buffs") → v.readList Buff.ofToml = .ok l →
        EntityState.ofToml (before ++ ("buffs", v) :: after) = .ok s → s.buffs = loaded) ∧
      (loaded.SameNumbers added ↔ (l.map (·.id)).Nodup) ∧
      ((l.map (·.id)).Nodup → loaded = added) ∧
      (∀ later : List Buff, (later.foldl add loaded).ids.Nodup ↔ (l.map (·.id)).Nodup) ∧
      ∀ id, loaded.interval id = added.interval id ∧
        (((group id l).map (·.stackCount.toNat)).sum ≤ 4294967295 →
          (loaded.count id = added.count id ↔
            ((group id l).tail.map (·.stackCount.toNat)).sum = 0)) := by
  intro loaded added
  have equal (h : (l.map (·.id)).Nodup) : loaded = added := (ofList_of_nodup h).symm
  refine ⟨ofJson?_toJson loaded, ?document, ⟨?repeated, ?distinct⟩, equal, ?later, ?single⟩
  case document =>
    intro before after v s last read h
    have := EntityState.buffs_of_ofToml last h
    rw [read] at this
    exact congrArg mk (Except.ok.inj this).symm
  case repeated => exact fun h => nodup_of_size_eq l h.size
  case distinct => exact fun h => equal h ▸ SameNumbers.refl loaded
  case later => exact nodup_ids_foldl_add_iff loaded
  case single => exact fun id => ⟨interval_loaded l id, count_loaded_eq_iff l id⟩

theorem loaded_repeated :
    let strong : Buff := { id := 5, tags := [90], stackCount := 2, leftTime := 1000 }
    let long : Buff := { id := 5, stackCount := 3, leftTime := 3000 }
    let document := BuffLedger.toJson ⟨[strong, long]⟩
    let added := ofList [strong, long]
    ∃ loaded, ofJson? document = some loaded ∧ ¬ loaded.ids.Nodup ∧
      (loaded.size, loaded.count 5, loaded.leftTime 5, loaded.countByTag 90) = (2, 2, 1000, 2) ∧
      (added.size, added.count 5, added.leftTime 5, added.countByTag 90) = (1, 5, 3000, 5) := by
  intro strong long document added
  exact ⟨_, ofJson?_toJson _, by decide, by decide, by decide⟩

theorem loaded_distinct :
    let ember : Buff := { id := 5, stackCount := 2 }
    let frost : Buff := { id := 7, tags := [90] }
    (⟨[ember, frost]⟩ : BuffLedger).SameNumbers (ofList [ember, frost]) ∧
      ([ember, frost, ember].foldl add ⟨[ember, frost]⟩).ids.Nodup := by
  intro ember frost
  have distinct : ([ember, frost].map (·.id)).Nodup := by decide
  obtain ⟨-, -, same, -, later, -⟩ := loaded_sameNumbers_iff [ember, frost]
  exact ⟨same.2 distinct, (later _).2 distinct⟩

end BuffLedger

end Skirmish
