import Mathlib.Algebra.BigOperators.Group.List.Basic
import Mathlib.Algebra.Order.Ring.Int
import Skirmish.Combat.Context

/-!
The total damage of a context. Its amounts are added in the order of their types, and every sum on
the way is held within the range of amounts: what one type carries past an end of the range is lost
to the types after it. The total is lowest when the gains come first and highest when the losses do.
These two meet, in the exact sum held within the range, unless the amounts are of both signs and
those of one sign alone leave the range.
-/

namespace Skirmish

namespace Amount

def held (n : Int) : Int := max Int64.minValue.toInt (min Int64.maxValue.toInt n)

def exactSum (l : List Amount) : Int := (l.map fun a => a.toInt).sum

def gains (l : List Amount) : Int := (l.map fun a => max a.toInt 0).sum

def losses (l : List Amount) : Int := (l.map fun a => min a.toInt 0).sum

/-- Amounts of one sign, or such that neither the gains nor the losses leave the range. -/
inductive AddUp (l : List Amount) : Prop
  | within : gains l ≤ Int64.maxValue.toInt → Int64.minValue.toInt ≤ losses l → AddUp l
  | noLosses : losses l = 0 → AddUp l
  | noGains : gains l = 0 → AddUp l

theorem held_toInt (a : Amount) : held a.toInt = a.toInt := by
  have lower := Int64.minValue_le_toInt a
  have upper := Int64.toInt_le a
  rw [held]
  omega

theorem held_held (n : Int) : held (held n) = held n := by
  simp only [held, Int64.toInt_minValue, Int64.toInt_maxValue]
  omega

theorem gains_cons (a : Amount) (l : List Amount) : gains (a :: l) = max a.toInt 0 + gains l :=
  List.sum_cons

theorem losses_cons (a : Amount) (l : List Amount) : losses (a :: l) = min a.toInt 0 + losses l :=
  List.sum_cons

theorem gains_append (l m : List Amount) : gains (l ++ m) = gains l + gains m := by
  simp only [gains, List.map_append, List.sum_append]

theorem losses_append (l m : List Amount) : losses (l ++ m) = losses l + losses m := by
  simp only [losses, List.map_append, List.sum_append]

theorem gains_perm {l m : List Amount} (h : l.Perm m) : gains l = gains m := (h.map _).sum_eq

theorem losses_perm {l m : List Amount} (h : l.Perm m) : losses l = losses m := (h.map _).sum_eq

theorem gains_nonneg (l : List Amount) : 0 ≤ gains l := by
  induction l with
  | nil => exact Int.le_refl 0
  | cons a l ih =>
    rw [gains_cons]
    omega

theorem losses_nonpos (l : List Amount) : losses l ≤ 0 := by
  induction l with
  | nil => exact Int.le_refl 0
  | cons a l ih =>
    rw [losses_cons]
    omega

theorem exactSum_eq (l : List Amount) : exactSum l = gains l + losses l := by
  induction l with
  | nil => rfl
  | cons a l ih =>
    have first : exactSum (a :: l) = a.toInt + exactSum l := List.sum_cons
    rw [first, gains_cons, losses_cons]
    omega

theorem held_mono {m n : Int} (h : m ≤ n) : held m ≤ held n := by
  simp only [held]
  omega

theorem held_gain_first_le (start a : Int) {gain : Int} (h : 0 ≤ gain) :
    held (start + (max a 0 + gain)) + min a 0 ≤ held (held (start + a) + gain) := by
  simp only [held, Int64.toInt_minValue, Int64.toInt_maxValue]
  omega

theorem le_held_loss_first (start a : Int) {loss : Int} (h : loss ≤ 0) :
    held (held (start + a) + loss) ≤ held (start + (min a 0 + loss)) + max a 0 := by
  simp only [held, Int64.toInt_minValue, Int64.toInt_maxValue]
  omega

theorem foldl_saturatingAdd_between (l : List Amount) (start : Amount) :
    held (held (start.toInt + gains l) + losses l) ≤ (l.foldl saturatingAdd start).toInt ∧
      (l.foldl saturatingAdd start).toInt ≤ held (held (start.toInt + losses l) + gains l) := by
  induction l generalizing start with
  | nil =>
    simp only [gains, losses, List.map_nil, List.sum_nil, Int.add_zero, List.foldl_nil, held_toInt]
    exact ⟨Int.le_refl _, Int.le_refl _⟩
  | cons a l ih =>
    obtain ⟨lower, upper⟩ := ih (saturatingAdd start a)
    have first : (saturatingAdd start a).toInt = held (start.toInt + a.toInt) :=
      toInt_saturatingAdd start a
    have gain := held_gain_first_le start.toInt a.toInt (gains_nonneg l)
    have loss := le_held_loss_first start.toInt a.toInt (losses_nonpos l)
    rw [first] at lower upper
    rw [List.foldl_cons, gains_cons, losses_cons]
    constructor
    · refine Int.le_trans (held_mono ?_) lower
      omega
    · refine Int.le_trans upper (held_mono ?_)
      omega

theorem foldl_of_losses_eq_zero {l : List Amount} (h : losses l = 0) (start : Amount) :
    (l.foldl saturatingAdd start).toInt = held (start.toInt + gains l) := by
  obtain ⟨lower, upper⟩ := foldl_saturatingAdd_between l start
  rw [h, Int.add_zero, held_held] at lower
  rw [h, Int.add_zero, held_toInt] at upper
  exact Int.le_antisymm upper lower

theorem foldl_of_gains_eq_zero {l : List Amount} (h : gains l = 0) (start : Amount) :
    (l.foldl saturatingAdd start).toInt = held (start.toInt + losses l) := by
  obtain ⟨lower, upper⟩ := foldl_saturatingAdd_between l start
  rw [h, Int.add_zero, held_toInt] at lower
  rw [h, Int.add_zero, held_held] at upper
  exact Int.le_antisymm upper lower

theorem gains_of_nonpos {l : List Amount} (h : ∀ a ∈ l, a.toInt ≤ 0) : gains l = 0 := by
  apply List.sum_eq_zero
  intro n mem
  obtain ⟨a, ha, rfl⟩ := List.mem_map.1 mem
  exact Int.max_eq_right (h a ha)

theorem losses_of_nonneg {l : List Amount} (h : ∀ a ∈ l, 0 ≤ a.toInt) : losses l = 0 := by
  apply List.sum_eq_zero
  intro n mem
  obtain ⟨a, ha, rfl⟩ := List.mem_map.1 mem
  exact Int.min_eq_right (h a ha)

theorem exists_parts (l : List Amount) : ∃ above below : List Amount,
    (above ++ below).Perm l ∧ losses above = 0 ∧ gains below = 0 ∧
      gains above = gains l ∧ losses below = losses l := by
  let above := l.filter fun a => decide (0 ≤ a.toInt)
  let below := l.filter fun a => !decide (0 ≤ a.toInt)
  have perm : (above ++ below).Perm l := List.filter_append_perm _ l
  have noLosses : losses above = 0 := by
    apply losses_of_nonneg
    intro a mem
    simpa using (List.mem_filter.1 mem).2
  have noGains : gains below = 0 := by
    apply gains_of_nonpos
    intro a mem
    have : a.toInt < 0 := by simpa using (List.mem_filter.1 mem).2
    exact Int.le_of_lt this
  have allGains : gains above = gains l := by
    rw [← gains_perm perm, gains_append, noGains, Int.add_zero]
  have allLosses : losses below = losses l := by
    rw [← losses_perm perm, losses_append, noLosses, Int.zero_add]
  exact ⟨above, below, perm, noLosses, noGains, allGains, allLosses⟩

theorem exists_gains_first (l : List Amount) : ∃ m : List Amount, m.Perm l ∧
    (m.foldl saturatingAdd 0).toInt = held (held (gains l) + losses l) := by
  obtain ⟨above, below, perm, noLosses, noGains, allGains, allLosses⟩ := exists_parts l
  refine ⟨above ++ below, perm, ?_⟩
  rw [List.foldl_append, foldl_of_gains_eq_zero noGains, foldl_of_losses_eq_zero noLosses,
    allGains, allLosses, Int64.toInt_zero, Int.zero_add]

theorem exists_losses_first (l : List Amount) : ∃ m : List Amount, m.Perm l ∧
    (m.foldl saturatingAdd 0).toInt = held (held (losses l) + gains l) := by
  obtain ⟨above, below, perm, noLosses, noGains, allGains, allLosses⟩ := exists_parts l
  refine ⟨below ++ above, List.perm_append_comm.trans perm, ?_⟩
  rw [List.foldl_append, foldl_of_losses_eq_zero noLosses, foldl_of_gains_eq_zero noGains,
    allGains, allLosses, Int64.toInt_zero, Int.zero_add]

theorem addUp_iff (l : List Amount) :
    AddUp l ↔ held (held (gains l) + losses l) = held (held (losses l) + gains l) := by
  have gain := gains_nonneg l
  have loss := losses_nonpos l
  constructor
  · intro h
    cases h with
    | within _ _ | noLosses _ | noGains _ =>
      simp only [held, Int64.toInt_minValue, Int64.toInt_maxValue] at *
      omega
  · intro h
    by_cases noLosses : losses l = 0
    · exact .noLosses noLosses
    by_cases noGains : gains l = 0
    · exact .noGains noGains
    apply AddUp.within
    all_goals
      simp only [held, Int64.toInt_minValue, Int64.toInt_maxValue] at *
      omega

theorem AddUp.held_eq {l : List Amount} (h : AddUp l) :
    held (held (gains l) + losses l) = held (exactSum l) := by
  have gain := gains_nonneg l
  have loss := losses_nonpos l
  rw [exactSum_eq]
  cases h with
  | within _ _ | noLosses _ | noGains _ =>
    simp only [held, Int64.toInt_minValue, Int64.toInt_maxValue] at *
    omega

theorem AddUp.foldl_eq {l m : List Amount} (h : AddUp l) (perm : m.Perm l) :
    (m.foldl saturatingAdd 0).toInt = held (exactSum l) := by
  obtain ⟨lower, upper⟩ := foldl_saturatingAdd_between m 0
  rw [Int64.toInt_zero, Int.zero_add, gains_perm perm, losses_perm perm] at lower upper
  rw [← (addUp_iff l).1 h] at upper
  rw [← h.held_eq]
  exact Int.le_antisymm upper lower

theorem addUp_of_same {l : List Amount} (total : Amount)
    (same : ∀ m : List Amount, m.Perm l → m.foldl saturatingAdd 0 = total) : AddUp l := by
  obtain ⟨m, perm, lowest⟩ := exists_gains_first l
  obtain ⟨m', perm', highest⟩ := exists_losses_first l
  rw [addUp_iff, ← lowest, ← highest, same m perm, same m' perm']

end Amount

theorem Table.exists_values {κ : Type} {α : Type} [Ord κ] (t : Table κ α) {l : List α}
    (h : l.length = t.size) : ∃ t' : Table κ α, t'.keys = t.keys ∧ t'.values = l := by
  have size : t.keys.length = l.length := by
    rw [h, keys, List.length_map, Table.size]
  have keys_zip : (t.keys.zip l).map (·.1) = t.keys := List.map_fst_zip (Nat.le_of_eq size)
  have ascending : (t.keys.zip l).Pairwise fun a b => compare a.1 b.1 = .lt := by
    rw [← List.pairwise_map (f := Prod.fst) (R := fun a b => compare a b = .lt), keys_zip, keys,
      List.pairwise_map]
    exact t.ascending
  exact ⟨⟨t.keys.zip l, ascending⟩, keys_zip, List.map_snd_zip (Nat.le_of_eq size.symm)⟩

namespace Context

open Amount

theorem exists_arranged (c : Context) {l : List Amount} (h : l.Perm c.damage.values) :
    ∃ c' : Context, c'.damage.keys = c.damage.keys ∧ c'.damage.values = l := by
  have size : l.length = c.damage.size := by
    rw [h.length_eq, Table.values, List.length_map, Table.size]
  obtain ⟨t, keys, values⟩ := c.damage.exists_values size
  exact ⟨{ c with damage := t }, keys, values⟩

/-- The total is the exact sum held within the range, on whatever types the amounts lie, exactly if
they add up, and exactly then the types make no difference. In any case it lies between the totals
of gaining first and of losing first. -/
theorem totalDamage_exact_iff (c : Context) :
    let amounts := c.damage.values
    ((∀ c' : Context, c'.damage.values.Perm amounts →
        c'.totalDamage.toInt = held (exactSum amounts)) ↔ AddUp amounts) ∧
      ((∀ c' : Context, c'.damage.values.Perm amounts → c'.totalDamage = c.totalDamage) ↔
        AddUp amounts) ∧
      held (held (gains amounts) + losses amounts) ≤ c.totalDamage.toInt ∧
      c.totalDamage.toInt ≤ held (held (losses amounts) + gains amounts) := by
  intro amounts
  have exact_of (h : AddUp amounts) (c' : Context) (perm : c'.damage.values.Perm amounts) :
      c'.totalDamage.toInt = held (exactSum amounts) := h.foldl_eq perm
  have of_same (total : Amount)
      (same : ∀ c' : Context, c'.damage.values.Perm amounts → c'.totalDamage = total) :
      AddUp amounts := by
    apply addUp_of_same total
    intro m perm
    obtain ⟨c', -, rfl⟩ := c.exists_arranged perm
    exact same c' perm
  refine ⟨⟨?addUp, exact_of⟩, ⟨of_same _, ?same⟩, ?between⟩
  case addUp =>
    intro exact
    apply of_same c.totalDamage
    intro c' perm
    rw [← Int64.toInt_inj, exact c' perm, exact c (List.Perm.refl _)]
  case same =>
    intro h c' perm
    rw [← Int64.toInt_inj, exact_of h c' perm, exact_of h c (List.Perm.refl _)]
  case between =>
    have between := foldl_saturatingAdd_between amounts 0
    rw [Int64.toInt_zero, Int.zero_add, Int.zero_add] at between
    exact between

theorem totalDamage_inexact :
    let c : Context := { damage := .ofList [(1, Int64.maxValue), (2, 1), (3, -1)] }
    let c' : Context := { damage := .ofList [(1, 1), (2, -1), (3, Int64.maxValue)] }
    c.totalDamage.toInt ≠ held (exactSum c.damage.values) ∧
      held (exactSum c.damage.values) = Int64.maxValue.toInt ∧
      c.totalDamage = Int64.maxValue - 1 ∧
      c'.damage.keys = c.damage.keys ∧ c'.damage.values.Perm c.damage.values ∧
      c'.totalDamage = Int64.maxValue := by
  decide

end Context

end Skirmish
