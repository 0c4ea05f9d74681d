import Mathlib
import Skirmish.Entity.Buff

namespace Skirmish

theorem sum_int64 (l : List Int64) : l.sum = Int64.ofInt (l.map Int64.toInt).sum := by
  induction l with
  | nil => rfl
  | cons n l ih =>
    rw [List.sum_cons, ih, List.map_cons, List.sum_cons, Int64.ofInt_add, Int64.ofInt_toInt]

theorem toInt_max (a b : Int64) : (max a b).toInt = max a.toInt b.toInt := by
  have h : max a b = if a ≤ b then b else a := rfl
  rw [h]
  split
  · rename_i le
    rw [Int.max_eq_right (Int64.le_iff_toInt_le.1 le)]
  · rename_i nle
    rw [Int.max_eq_left (Int64.le_iff_toInt_le.1 (Int64.le_of_lt (Int64.not_le.1 nle)))]

theorem toInt_toInt64 (n : UInt32) : n.toUInt64.toInt64.toInt = n.toNat := by
  have small := n.toNat_lt
  have most : Int64.maxValue.toInt = 9223372036854775807 := rfl
  rw [toInt_word_of_le, UInt32.toNat_toUInt64]
  rw [UInt32.toNat_toUInt64]
  omega

namespace Buff

def group (id : BuffId) (l : List Buff) : List Buff := l.filter (·.id = id)

/-- The identifiers of a list, each once, for which some listed buff has the tag. -/
def carriers (tag : BuffTag) (l : List Buff) : List BuffId :=
  (l.map (·.id)).eraseDups.filter fun id => (group id l).any (·.hasTag tag)

def merged? : List Buff → Option Buff
  | [] => none
  | b :: rest => some (rest.foldl merge b)

theorem merged?_concat (l : List Buff) (b : Buff) :
    merged? (l ++ [b]) = some ((merged? l).elim b (·.merge b)) := by
  cases l with
  | nil => rfl
  | cons first rest => simp [merged?]

theorem group_concat (id : BuffId) (l : List Buff) (b : Buff) :
    group id (l ++ [b]) = group id l ++ if b.id = id then [b] else [] := by
  rw [group, List.filter_append, List.filter_singleton]
  by_cases h : b.id = id <;> simp [h, group]

theorem stackCount_foldl_merge (b : Buff) (l : List Buff)
    (fits : b.stackCount.toNat + (l.map (·.stackCount.toNat)).sum ≤ 4294967295) :
    (l.foldl merge b).stackCount.toNat =
      b.stackCount.toNat + (l.map (·.stackCount.toNat)).sum := by
  induction l generalizing b with
  | nil => rfl
  | cons new l ih =>
    rw [List.map_cons, List.sum_cons] at fits
    have first : (b.merge new).stackCount.toNat = b.stackCount.toNat + new.stackCount.toNat := by
      rw [merge, UInt32.toNat_add]
      exact Nat.mod_eq_of_lt (by omega)
    rw [List.foldl_cons, ih _ (by omega), first, List.map_cons, List.sum_cons, Nat.add_assoc]

theorem leftTime_foldl_merge (b : Buff) (l : List Buff) :
    (l.foldl merge b).leftTime.toInt = (l.map (·.leftTime.toInt)).foldl max b.leftTime.toInt := by
  induction l generalizing b with
  | nil => rfl
  | cons new l ih =>
    rw [List.foldl_cons, ih, List.map_cons, List.foldl_cons, merge, toInt_max]

theorem interval_foldl_merge (b : Buff) (l : List Buff) :
    (l.foldl merge b).interval = b.interval := by
  induction l generalizing b with
  | nil => rfl
  | cons new l ih => rw [List.foldl_cons, ih, interval_merge]

theorem hasTag_foldl_merge (b : Buff) (l : List Buff) (tag : BuffTag) :
    (l.foldl merge b).hasTag tag = (b :: l).any (·.hasTag tag) := by
  induction l generalizing b with
  | nil => simp
  | cons new l ih => rw [List.foldl_cons, ih]; simp [Bool.or_assoc]

end Buff

namespace BuffLedger

open Buff (group carriers merged?)

def ofList (l : List Buff) : BuffLedger := l.foldl add empty

def ids (ledger : BuffLedger) : List BuffId := ledger.buffs.map (·.id)

theorem ofList_concat (l : List Buff) (b : Buff) : ofList (l ++ [b]) = (ofList l).add b := by
  simp [ofList]

section Identifiers

theorem ids_addTo (new : Buff) (buffs : List Buff) :
    (addTo new buffs).map (·.id) =
      if new.id ∈ buffs.map (·.id) then buffs.map (·.id) else buffs.map (·.id) ++ [new.id] := by
  induction buffs with
  | nil => rfl
  | cons b rest ih =>
    by_cases h : b.id = new.id
    · simp [addTo, h]
    · rw [addTo, if_neg h, List.map_cons, List.map_cons, ih]
      by_cases hm : new.id ∈ rest.map (·.id)
      · rw [if_pos hm, if_pos (List.mem_cons_of_mem _ hm)]
      · have fresh : new.id ∉ b.id :: rest.map (·.id) := by
          rw [List.mem_cons, not_or]
          exact ⟨Ne.symm h, hm⟩
        rw [if_neg hm, if_neg fresh, List.cons_append]

theorem ids_add (ledger : BuffLedger) (new : Buff) :
    (ledger.add new).ids =
      if new.id ∈ ledger.ids then ledger.ids else ledger.ids ++ [new.id] :=
  ids_addTo new ledger.buffs

theorem nodup_ids_add {ledger : BuffLedger} (h : ledger.ids.Nodup) (new : Buff) :
    (ledger.add new).ids.Nodup := by
  rw [ids_add]
  split
  · exact h
  · rename_i fresh
    rw [← List.concat_eq_append]
    exact h.concat fresh

theorem nodup_ids_ofList (l : List Buff) : (ofList l).ids.Nodup := by
  induction l using List.reverseRecOn with
  | nil => exact .nil
  | append_singleton l b ih =>
    rw [ofList_concat]
    exact nodup_ids_add ih b

theorem ids_ofList (l : List Buff) : (ofList l).ids = (l.map (·.id)).eraseDups := by
  -- Buffs are added at the end, so the list is taken apart from there.
  induction l using List.reverseRecOn with
  | nil => rfl
  | append_singleton l b ih =>
    rw [ofList_concat, ids_add, ih, List.map_append, List.eraseDups_append, List.map_singleton,
      List.removeAll, List.filter_singleton]
    by_cases h : b.id ∈ l.map (·.id)
    · simp [h]
    · simp [h, List.eraseDups_cons]

theorem mem_ids_ofList {l : List Buff} {id : BuffId} :
    id ∈ (ofList l).ids ↔ id ∈ l.map (·.id) := by
  rw [ids_ofList, List.mem_eraseDups]

theorem size_eq_length_ids (ledger : BuffLedger) : ledger.size = ledger.ids.length :=
  (List.length_map _).symm

theorem get?_of_mem {ledger : BuffLedger} (nodup : ledger.ids.Nodup) {b : Buff}
    (h : b ∈ ledger.buffs) : ledger.get? b.id = some b := by
  obtain ⟨buffs⟩ := ledger
  simp only [ids, get?, find] at nodup h ⊢
  induction buffs with
  | nil => cases h
  | cons first rest ih =>
    rw [List.map_cons, List.nodup_cons] at nodup
    cases List.mem_cons.1 h with
    | inl head => simp [head]
    | inr tail =>
      have ne : first.id ≠ b.id := by
        intro e
        exact nodup.1 (e ▸ List.mem_map_of_mem tail)
      rw [List.find?_cons_of_neg (by simpa using ne)]
      exact ih nodup.2 tail

theorem countByTag_eq_sum {ledger : BuffLedger} (nodup : ledger.ids.Nodup) (tag : BuffTag) :
    ledger.countByTag tag =
      ((ledger.ids.filter fun id => (ledger.get? id).any (·.hasTag tag)).map ledger.count).sum := by
  have found (b : Buff) (h : b ∈ ledger.buffs) := get?_of_mem nodup h
  rw [countByTag, ids, List.filter_map, List.map_map]
  -- A stored buff is what its identifier finds, so the filter may go by identifiers.
  have carriers : ledger.buffs.filter (·.hasTag tag) = ledger.buffs.filter
      ((fun id => (ledger.get? id).any (·.hasTag tag)) ∘ (·.id)) := by
    apply List.filter_congr
    intro b h
    simp [found b h]
  rw [carriers]
  congr 1
  apply List.map_congr_left
  intro b h
  simp [count, found b (List.mem_filter.1 h).1]

end Identifiers

section Groups

theorem get?_ofList (l : List Buff) (id : BuffId) :
    (ofList l).get? id = merged? (group id l) := by
  induction l using List.reverseRecOn with
  | nil => rfl
  | append_singleton l b ih =>
    rw [ofList_concat, get?_add, Buff.group_concat]
    by_cases h : id = b.id
    · subst h
      rw [if_pos rfl, if_pos rfl, ih, Buff.merged?_concat]
    · rw [if_neg h, if_neg (Ne.symm h), List.append_nil, ih]

variable (l : List Buff) (id : BuffId)

theorem toInt_count_ofList (fits : ((group id l).map (·.stackCount.toNat)).sum ≤ 4294967295) :
    ((ofList l).count id).toInt = ((group id l).map (·.stackCount.toNat)).sum := by
  rw [count, get?_ofList]
  cases hg : group id l with
  | nil => rfl
  | cons b rest =>
    rw [hg, List.map_cons, List.sum_cons] at fits
    simp only [merged?, toInt_toInt64]
    rw [Buff.stackCount_foldl_merge b rest fits, List.map_cons, List.sum_cons]

theorem toInt_leftTime_ofList :
    ((ofList l).leftTime id).toInt = ((group id l).map (·.leftTime.toInt)).foldl max 0 := by
  rw [leftTime, get?_ofList]
  cases group id l with
  | nil => rfl
  | cons b rest =>
    -- The ledger takes the maximum with zero last, the specification starts from it.
    simp only [merged?, toInt_max, Buff.leftTime_foldl_merge, List.map_cons, List.foldl_cons]
    rw [List.foldl_assoc, Int.max_comm]
    rfl

theorem interval_ofList :
    (ofList l).interval id = ((group id l).head?.map (·.interval)).getD 0 := by
  rw [interval, get?_ofList]
  cases group id l with
  | nil => rfl
  | cons b rest => exact Buff.interval_foldl_merge b rest

theorem hasTag_ofList (tag : BuffTag) :
    ((ofList l).get? id).any (·.hasTag tag) = (group id l).any (·.hasTag tag) := by
  rw [get?_ofList]
  cases group id l with
  | nil => rfl
  | cons b rest => exact Buff.hasTag_foldl_merge b rest tag

theorem countByTag_ofList (tag : BuffTag) :
    (ofList l).countByTag tag = ((carriers tag l).map (ofList l).count).sum := by
  rw [countByTag_eq_sum (nodup_ids_ofList l)]
  simp only [hasTag_ofList, ids_ofList]
  rfl

theorem count_nonneg (ledger : BuffLedger) : 0 ≤ (ledger.count id).toInt := by
  rw [count]
  split
  · rw [toInt_toInt64]
    exact Int.natCast_nonneg _
  · exact Int.le_refl 0

theorem toInt_countByTag_ofList {tag : BuffTag}
    (fits : ((carriers tag l).map fun id => ((ofList l).count id).toInt).sum ≤
      9223372036854775807) :
    ((ofList l).countByTag tag).toInt =
      ((carriers tag l).map fun id => ((ofList l).count id).toInt).sum := by
  have nonneg : 0 ≤ ((carriers tag l).map fun id => ((ofList l).count id).toInt).sum := by
    apply List.sum_nonneg
    intro n h
    obtain ⟨id, -, rfl⟩ := List.mem_map.1 h
    exact count_nonneg id _
  rw [countByTag_ofList, sum_int64, List.map_map, Function.comp_def]
  exact Int64.toInt_ofInt_of_le (by omega) (by omega)

end Groups

section Arrangements

/-- Ledgers that answer alike, save for intervals and the order of their buffs. -/
structure SameAnswers (a b : BuffLedger) : Prop where
  size : a.size = b.size
  count (id : BuffId) : a.count id = b.count id
  leftTime (id : BuffId) : a.leftTime id = b.leftTime id
  hasTag (id : BuffId) (tag : BuffTag) :
    (a.get? id).any (·.hasTag tag) = (b.get? id).any (·.hasTag tag)
  countByTag (tag : BuffTag) : a.countByTag tag = b.countByTag tag

theorem sum_int64_perm {l l' : List Int64} (p : l'.Perm l) : l'.sum = l.sum := by
  rw [sum_int64, sum_int64, (p.map _).sum_eq]

variable {l l' : List Buff}

theorem ids_ofList_perm (p : l'.Perm l) : (ofList l').ids.Perm (ofList l).ids := by
  apply (List.perm_ext_iff_of_nodup (nodup_ids_ofList l') (nodup_ids_ofList l)).2
  intro id
  rw [mem_ids_ofList, mem_ids_ofList, (p.map _).mem_iff]

theorem carriers_perm (p : l'.Perm l) (tag : BuffTag) :
    (carriers tag l').Perm (carriers tag l) := by
  have any (id : BuffId) :
      (group id l').any (·.hasTag tag) = (group id l).any (·.hasTag tag) :=
    (p.filter _).any_eq
  simp only [carriers, any]
  rw [← ids_ofList, ← ids_ofList]
  exact (ids_ofList_perm p).filter _

theorem sameAnswers_ofList (p : l'.Perm l)
    (fits : ∀ id, ((group id l).map (·.stackCount.toNat)).sum ≤ 4294967295) :
    (ofList l').SameAnswers (ofList l) := by
  have groups (id : BuffId) : (group id l').Perm (group id l) := p.filter _
  have sums (id : BuffId) := ((groups id).map (·.stackCount.toNat)).sum_eq
  have counts (id : BuffId) : (ofList l').count id = (ofList l).count id := by
    rw [← Int64.toInt_inj, toInt_count_ofList l id (fits id), ← sums id]
    exact toInt_count_ofList l' id (sums id ▸ fits id)
  constructor
  case size =>
    rw [size_eq_length_ids, size_eq_length_ids, (ids_ofList_perm p).length_eq]
  case count => exact counts
  case leftTime =>
    intro id
    rw [← Int64.toInt_inj, toInt_leftTime_ofList, toInt_leftTime_ofList]
    apply ((groups id).map _).foldl_eq'
    intros
    omega
  case hasTag =>
    intro id tag
    rw [hasTag_ofList, hasTag_ofList, (groups id).any_eq]
  case countByTag =>
    intro tag
    rw [countByTag_ofList, countByTag_ofList, funext counts]
    exact sum_int64_perm ((carriers_perm p tag).map _)

end Arrangements

/-- Adding buffs one by one groups them by identifier. A tag counts all stacks of its groups, also
those added before the tag, and a group once. -/
theorem ofList_groups (l : List Buff)
    (fits : ∀ id, ((group id l).map (·.stackCount.toNat)).sum ≤ 4294967295) :
    let ledger := ofList l
    let distinct := (l.map (·.id)).eraseDups
    ledger.ids.Nodup ∧ ledger.ids = distinct ∧ ledger.size = distinct.length ∧
      (∀ id,
        (ledger.count id).toInt = ((group id l).map (·.stackCount.toNat)).sum ∧
        (ledger.leftTime id).toInt = ((group id l).map (·.leftTime.toInt)).foldl max 0 ∧
        ledger.interval id = ((group id l).head?.map (·.interval)).getD 0 ∧
        ∀ tag, (ledger.get? id).any (·.hasTag tag) = (group id l).any (·.hasTag tag)) ∧
      (∀ tag,
        ledger.countByTag tag = ((carriers tag l).map ledger.count).sum ∧
        (((carriers tag l).map fun id => (ledger.count id).toInt).sum ≤ 9223372036854775807 →
          (ledger.countByTag tag).toInt =
            ((carriers tag l).map fun id => (ledger.count id).toInt).sum)) ∧
      ∀ l', l'.Perm l → (ofList l').SameAnswers ledger := by
  intro ledger distinct
  have ids : ledger.ids = distinct := ids_ofList l
  refine ⟨nodup_ids_ofList l, ids, ?size, ?group, ?tag, ?arranged⟩
  case size => rw [size_eq_length_ids, ids]
  case group =>
    intro id
    exact ⟨toInt_count_ofList l id (fits id), toInt_leftTime_ofList l id, interval_ofList l id,
      hasTag_ofList l id⟩
  case tag =>
    intro tag
    exact ⟨countByTag_ofList l tag, toInt_countByTag_ofList l⟩
  case arranged =>
    intro l' p
    exact sameAnswers_ofList p fits

theorem sum_group_le (id : BuffId) (l : List Buff) :
    ((group id l).map (·.stackCount.toNat)).sum ≤ (l.map (·.stackCount.toNat)).sum :=
  (List.filter_sublist.map _).sum_le_sum fun _ _ => Nat.zero_le _

theorem ofList_late_tag :
    let ember : Buff := { id := 5, stackCount := 2, leftTime := -3000, interval := 1000 }
    let frost : Buff := { id := 7, tags := [90], leftTime := 500 }
    let late : Buff := { id := 5, tags := [90, 90], stackCount := 4, leftTime := -10 }
    let ledger := ofList [ember, frost, late]
    ledger.ids = [5, 7] ∧ (ledger.count 5).toInt = 6 ∧ (ledger.leftTime 5).toInt = 0 ∧
      ledger.interval 5 = 1000 ∧ (ledger.countByTag 90).toInt = 7 ∧
      (ofList [late, ember, frost]).SameAnswers ledger := by
  intro ember frost late ledger
  have fits (id : BuffId) :
      ((group id [ember, frost, late]).map (·.stackCount.toNat)).sum ≤ 4294967295 :=
    Nat.le_trans (sum_group_le id _) (by decide)
  obtain ⟨-, ids, -, answers, tagged, arranged⟩ := ofList_groups [ember, frost, late] fits
  obtain ⟨count, leftTime, interval, -⟩ := answers 5
  have arrangement : [late, ember, frost].Perm [ember, frost, late] := by decide
  exact ⟨ids.trans (by decide), count.trans (by decide), leftTime.trans (by decide),
    interval.trans (by decide), ((tagged 90).2 (by decide)).trans (by decide),
    arranged _ arrangement⟩

end BuffLedger

end Skirmish
