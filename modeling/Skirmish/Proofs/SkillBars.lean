import Skirmish.Entity.Kinds
import Mathlib.Data.List.Induction
import Mathlib.Data.List.Nodup

namespace Skirmish

namespace SkillBar

theorem countP_slots_add (bar : SkillBar) :
    bar.slots.countP (·.isUsed == true) + bar.slots.countP (·.isUsed == false) =
      bar.slots.length := by
  rw [List.length_eq_countP_add_countP (·.isUsed == true)]
  congr 2
  funext slot
  cases slot.isUsed <;> rfl

theorem countSlots_add (bar : SkillBar) :
    bar.countSlots true + bar.countSlots false = Int64.ofNat bar.slots.length := by
  rw [countSlots, countSlots, ← Int64.ofNat_add, countP_slots_add]

theorem toInt_countSlots {bar : SkillBar} (fits : bar.slots.length ≤ 9223372036854775807)
    (used : Bool) : (bar.countSlots used).toInt = bar.slots.countP (·.isUsed == used) := by
  have some : bar.slots.countP (·.isUsed == used) ≤ bar.slots.length := List.countP_le_length
  exact Int64.toInt_ofNat_of_lt (by omega)

end SkillBar

namespace Player

def barsWith (p : Player) (id : SkillBarId) : List SkillBar := p.skillBars.filter (·.id == id)

def withSkillBars (p : Player) (bars : List SkillBar) : Player := bars.foldl withSkillBar p

variable (p : Player) (bar : SkillBar) (bars : List SkillBar) (id : SkillBarId)

theorem head?_barsWith : (p.barsWith id).head? = p.skillBar id := List.head?_filter

theorem barsWith_withSkillBar :
    (p.withSkillBar bar).barsWith id = if id = bar.id then [bar] else p.barsWith id := by
  rw [barsWith, withSkillBar, List.filter_append, List.filter_filter]
  split
  case isTrue same =>
    rw [same]
    simp
  case isFalse other =>
    have kept (b : SkillBar) : (b.id == id && b.id != bar.id) = (b.id == id) := by
      by_cases h : b.id = id
      · simp [h, other]
      · simp [h]
    simp [kept, Ne.symm other, barsWith]

theorem barsWith_withSkillBars :
    (p.withSkillBars bars).barsWith id =
      (bars.filter (·.id == id)).getLast?.elim (p.barsWith id) ([·]) := by
  induction bars using List.reverseRecOn with
  | nil => rfl
  | append_singleton bars bar ih =>
    have last : p.withSkillBars (bars ++ [bar]) = (p.withSkillBars bars).withSkillBar bar :=
      List.foldl_append
    rw [last, barsWith_withSkillBar, ih, List.filter_append]
    split
    case isTrue same => simp [same]
    case isFalse other => simp [Ne.symm other]

theorem skillBar_withSkillBar :
    (p.withSkillBar bar).skillBar id = if id = bar.id then some bar else p.skillBar id := by
  rw [← head?_barsWith, barsWith_withSkillBar, apply_ite List.head?, head?_barsWith]
  rfl

theorem barsWith_of_barless (state : EntityState) :
    (withSkillBars { state } bars).barsWith id = (bars.filter (·.id == id)).getLast?.toList := by
  rw [barsWith_withSkillBars]
  cases (bars.filter (·.id == id)).getLast? <;> rfl

variable {p}

theorem nodup_ids_of_barsWith (single : ∀ id, (p.barsWith id).length ≤ 1) :
    (p.skillBars.map (·.id)).Nodup := by
  rw [List.nodup_iff_count_le_one]
  intro id
  rw [List.count_eq_countP, List.countP_map, List.countP_eq_length_filter]
  exact single id

theorem exists_skillBar_of_mem {id : SkillBarId} (stored : id ∈ p.skillBars.map (·.id)) :
    ∃ bar, p.skillBar id = some bar := by
  rw [← Option.isSome_iff_exists, skillBar, List.find?_isSome]
  simpa using stored

theorem skillBar_of_notMem {id : SkillBarId} (unstored : id ∉ p.skillBars.map (·.id)) :
    p.skillBar id = none := by
  rw [skillBar, List.find?_eq_none]
  intro bar mem same
  exact unstored (List.mem_map.2 ⟨bar, mem, beq_iff_eq.1 same⟩)

/-- A bar that is added is found under its number, alone, and no other number is touched. So after
any number of bars each number has one bar at most, the last one added. The used and the empty slots
of a bar are all its slots, and where there is no bar there are none. -/
theorem skillBars_last_added :
    (∀ (p : Player) (bar : SkillBar),
      let after := p.withSkillBar bar
      after.skillBar bar.id = some bar ∧
        (∀ id, id ≠ bar.id → after.skillBar id = p.skillBar id) ∧
        after.skillBars.filter (·.id == bar.id) = [bar]) ∧
    (∀ (state : EntityState) (bars : List SkillBar),
      let after := bars.foldl withSkillBar { state }
      (after.skillBars.map (·.id)).Nodup ∧
        ∀ id, after.skillBar id = (bars.filter (·.id == id)).getLast?) ∧
    ∀ (p : Player) (id : SkillBarId),
      let slots := skillSlots (some p.toEntity) id
      (id ∈ p.skillBars.map (·.id) → ∃ bar, p.skillBar id = some bar ∧
        slots true + slots false = Int64.ofNat bar.slots.length ∧
        (bar.slots.length ≤ 9223372036854775807 →
          (slots true).toInt + (slots false).toInt = bar.slots.length)) ∧
      (id ∉ p.skillBars.map (·.id) → slots true = 0 ∧ slots false = 0) := by
  refine ⟨fun p bar => ⟨?found, ?others, ?alone⟩, fun state bars => ⟨?distinct, ?last⟩,
    fun p id => ⟨?stored, ?unstored⟩⟩
  case found => rw [skillBar_withSkillBar, if_pos rfl]
  case others =>
    intro id other
    rw [skillBar_withSkillBar, if_neg other]
  case alone => exact (barsWith_withSkillBar p bar bar.id).trans (if_pos rfl)
  case distinct =>
    apply nodup_ids_of_barsWith
    intro id
    show ((withSkillBars { state } bars).barsWith id).length ≤ 1
    rw [barsWith_of_barless]
    exact Option.length_toList_le
  case last =>
    intro id
    show (withSkillBars { state } bars).skillBar id = _
    rw [← head?_barsWith, barsWith_of_barless, Option.head?_toList]
  case stored =>
    intro stored
    obtain ⟨bar, found⟩ := exists_skillBar_of_mem stored
    have count (used : Bool) : skillSlots (some p.toEntity) id used = bar.countSlots used := by
      rw [skillSlots_toEntity, found]
      rfl
    refine ⟨bar, found, ?_, fun fits => ?_⟩
    · simp only [count]
      exact bar.countSlots_add
    · simp only [count]
      rw [SkillBar.toInt_countSlots fits, SkillBar.toInt_countSlots fits, ← bar.countP_slots_add,
        Int.natCast_add]
  case unstored =>
    intro unstored
    have none := skillBar_of_notMem unstored
    constructor
    · rw [skillSlots_toEntity, none]
      rfl
    · rw [skillSlots_toEntity, none]
      rfl

theorem skillBars_repeated :
    let p : Player := { skillBars := [⟨1, [⟨7⟩]⟩, ⟨2, [⟨0⟩, ⟨9⟩]⟩, ⟨1, []⟩] }
    let bar : SkillBar := .ofSkills 1 [0, 5, 0]
    let after := p.withSkillBar bar
    after.skillBar 1 = some bar ∧ after.skillBar 2 = some ⟨2, [⟨0⟩, ⟨9⟩]⟩ ∧
      after.skillBars.filter (·.id == 1) = [bar] ∧
      (skillSlots (some after.toEntity) 1 true).toInt +
        (skillSlots (some after.toEntity) 1 false).toInt = 3 ∧
      skillSlots (some after.toEntity) 3 false = 0 := by
  intro p bar after
  obtain ⟨adding, -, slots⟩ := skillBars_last_added
  obtain ⟨found, others, alone⟩ := adding p bar
  obtain ⟨held, stored, -, count⟩ := (slots after 1).1 (by decide)
  obtain rfl : bar = held := Option.some.inj (found.symm.trans stored)
  exact ⟨found, others 2 (by decide), alone, count (by decide), ((slots after 3).2 (by decide)).2⟩

end Player

end Skirmish
