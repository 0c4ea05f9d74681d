import Skirmish.Proofs.BuffLoading

namespace Skirmish

namespace Buff

def stacksUnder (tag : BuffTag) (l : List Buff) : Nat :=
  ((l.filter (·.hasTag tag)).map (·.stackCount.toNat)).sum

def gain (tag : BuffTag) (new : Buff) : Option Buff → Nat
  | none => if new.hasTag tag then new.stackCount.toNat else 0
  | some b =>
    if b.hasTag tag then new.stackCount.toNat
    else if new.hasTag tag then b.stackCount.toNat + new.stackCount.toNat
    else 0

variable {tag : BuffTag} {b new : Buff}

theorem stacksUnder_append (l m : List Buff) :
    stacksUnder tag (l ++ m) = stacksUnder tag l + stacksUnder tag m := by
  simp only [stacksUnder, List.filter_append, List.map_append, List.sum_append]

theorem stacksUnder_cons (l : List Buff) :
    stacksUnder tag (b :: l) =
      (if b.hasTag tag then b.stackCount.toNat else 0) + stacksUnder tag l := by
  rw [stacksUnder, List.filter_cons]
  split
  · rw [List.map_cons, List.sum_cons, stacksUnder]
  · rw [Nat.zero_add, stacksUnder]

theorem toNat_stackCount_merge
    (fits : b.stackCount.toNat + new.stackCount.toNat ≤ 4294967295) :
    (b.merge new).stackCount.toNat = b.stackCount.toNat + new.stackCount.toNat := by
  have single := stackCount_foldl_merge b [new] (by simpa using fits)
  simpa using single

theorem tags_prefix_merge (b new : Buff) : b.tags <+: (b.merge new).tags := by
  rw [merge]
  generalize b.tags = tags
  induction new.tags generalizing tags with
  | nil => exact List.prefix_refl _
  | cons tag rest ih =>
    have first : tags <+: insertTag tags tag := by
      rw [insertTag]
      split
      · exact List.prefix_refl _
      · exact List.prefix_append _ _
    exact first.trans (ih _)

end Buff

namespace BuffLedger

open Buff (stacksUnder gain)

variable {new b : Buff} {buffs : List Buff}

theorem find_eq_none_iff {id : BuffId} : find id buffs = none ↔ id ∉ buffs.map (·.id) := by
  simp [find]

theorem exists_addTo_of_find (h : find new.id buffs = some b) :
    ∃ before after, buffs = before ++ b :: after ∧
      addTo new buffs = before ++ b.merge new :: after := by
  induction buffs with
  | nil => cases h
  | cons first rest ih =>
    by_cases same : first.id = new.id
    · obtain rfl : first = b := by simpa [find, same] using h
      exact ⟨[], rest, rfl, by rw [addTo, if_pos same, List.nil_append]⟩
    · have later : find new.id rest = some b := by simpa [find, same] using h
      obtain ⟨before, after, rfl, merged⟩ := ih later
      exact ⟨first :: before, after, rfl, by rw [addTo, if_neg same, merged, List.cons_append]⟩

theorem length_addTo (new : Buff) (buffs : List Buff) :
    (addTo new buffs).length = buffs.length + if find new.id buffs = none then 1 else 0 := by
  cases found : find new.id buffs with
  | none => rw [addTo_of_notMem (find_eq_none_iff.1 found), List.length_append]; rfl
  | some b =>
    obtain ⟨before, after, rfl, merged⟩ := exists_addTo_of_find found
    simp [merged]

theorem stacksUnder_addTo (tag : BuffTag)
    (fits : ∀ b, find new.id buffs = some b →
      b.stackCount.toNat + new.stackCount.toNat ≤ 4294967295) :
    stacksUnder tag (addTo new buffs) =
      stacksUnder tag buffs + gain tag new (find new.id buffs) := by
  cases found : find new.id buffs with
  | none =>
    rw [addTo_of_notMem (find_eq_none_iff.1 found), Buff.stacksUnder_append, Buff.stacksUnder_cons]
    rfl
  | some b =>
    obtain ⟨before, after, rfl, merged⟩ := exists_addTo_of_find found
    rw [merged, Buff.stacksUnder_append, Buff.stacksUnder_append, Buff.stacksUnder_cons,
      Buff.stacksUnder_cons, Buff.hasTag_merge, Buff.toNat_stackCount_merge (fits b found), gain]
    -- The tag of a merged buff is an old one, a new one or neither.
    cases b.hasTag tag <;> cases new.hasTag tag <;> simp <;> omega

theorem sum_stacks (l : List Buff) :
    (l.map (·.stackCount.toUInt64.toInt64)).sum = Int64.ofNat (l.map (·.stackCount.toNat)).sum := by
  have counts : (Int64.toInt ∘ fun b : Buff => b.stackCount.toUInt64.toInt64) =
      Nat.cast ∘ fun b : Buff => b.stackCount.toNat := funext fun b => toInt_toInt64 b.stackCount
  rw [sum_int64, List.map_map, counts, ← List.map_map, ← Nat.cast_list_sum, Int64.ofInt_eq_ofNat]

theorem countByTag_eq_ofNat (ledger : BuffLedger) (tag : BuffTag) :
    ledger.countByTag tag = Int64.ofNat (stacksUnder tag ledger.buffs) :=
  sum_stacks _

/-- What adding a buff changes: the entry of its identifier, the number of entries if there was
none, and the stacks of its tags and of that entry's. The entry keeps its tags in front and its
interval. -/
theorem add_changes (ledger : BuffLedger) (new : Buff)
    (fits : ∀ b, ledger.get? new.id = some b →
      b.stackCount.toNat + new.stackCount.toNat ≤ 4294967295) :
    let found := ledger.get? new.id
    let after := ledger.add new
    (∀ id, id ≠ new.id → after.get? id = ledger.get? id) ∧
      after.size = ledger.size + (if found = none then 1 else 0) ∧
      (∀ tag,
        after.countByTag tag = ledger.countByTag tag + Int64.ofNat (gain tag new found) ∧
        (stacksUnder tag after.buffs ≤ 9223372036854775807 →
          (after.countByTag tag).toInt = (ledger.countByTag tag).toInt + gain tag new found)) ∧
      (found = none → after.get? new.id = some new) ∧
      ∀ b, found = some b → ∃ merged, after.get? new.id = some merged ∧
        b.tags <+: merged.tags ∧ (∀ tag, merged.hasTag tag = (b.hasTag tag || new.hasTag tag)) ∧
        merged.interval = b.interval ∧
        merged.stackCount.toNat = b.stackCount.toNat + new.stackCount.toNat := by
  intro found after
  have gained (tag : BuffTag) : stacksUnder tag after.buffs =
      stacksUnder tag ledger.buffs + gain tag new found := stacksUnder_addTo tag fits
  have entry : after.get? new.id = some (found.elim new (·.merge new)) :=
    (get?_add ledger new new.id).trans (if_pos rfl)
  refine ⟨?others, length_addTo new ledger.buffs, ?tags, ?fresh, ?merged⟩
  case others =>
    intro id ne
    exact (get?_add ledger new id).trans (if_neg ne)
  case tags =>
    intro tag
    rw [countByTag_eq_ofNat, countByTag_eq_ofNat, gained tag]
    refine ⟨Int64.ofNat_add _ _, fun fits => ?_⟩
    rw [Int64.toInt_ofNat_of_lt (by omega), Int64.toInt_ofNat_of_lt (by omega), Int.natCast_add]
  case fresh =>
    intro absent
    rw [entry, absent]
    rfl
  case merged =>
    intro b present
    rw [present] at entry
    exact ⟨b.merge new, entry, Buff.tags_prefix_merge b new, Buff.hasTag_merge b new,
      Buff.interval_merge b new, Buff.toNat_stackCount_merge (fits b present)⟩

theorem add_changes_repeated :
    let ember : Buff := { id := 5, tags := [90, 90], stackCount := 2, interval := 1000 }
    let frost : Buff := { id := 7, tags := [91] }
    let hidden : Buff := { id := 5, tags := [91], stackCount := 3 }
    let new : Buff := { id := 5, tags := [91, 91], stackCount := 4, interval := 9 }
    let ledger : BuffLedger := ⟨[ember, frost, hidden]⟩
    let after := ledger.add new
    after.get? 7 = some frost ∧ after.size = 3 ∧ (ledger.countByTag 91).toInt = 4 ∧
      (after.countByTag 91).toInt = 10 ∧ (after.countByTag 90).toInt = 6 ∧
      ∃ merged, after.get? 5 = some merged ∧ [90, 90] <+: merged.tags ∧ merged.interval = 1000 := by
  intro ember frost hidden new ledger after
  have fits (b : Buff) (h : ledger.get? new.id = some b) :
      b.stackCount.toNat + new.stackCount.toNat ≤ 4294967295 := by
    cases h
    decide
  obtain ⟨others, size, tags, -, entry⟩ := add_changes ledger new fits
  obtain ⟨merged, found, kept, -, interval, -⟩ := entry ember rfl
  exact ⟨others 7 (by decide), size, by decide, (tags 91).2 (by decide), (tags 90).2 (by decide),
    merged, found, kept, interval⟩

end BuffLedger

end Skirmish
