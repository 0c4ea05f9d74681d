import Skirmish.Proofs.Builtin
import Skirmish.Random.Scripted

namespace Skirmish

namespace Registry

variable {σ ω : Type}

inductive Origin
  | empty
  | builtin

def Origin.formulas : Origin → List (FormulaId × Formula ω)
  | empty => []
  | builtin => Builtin.formulas

def Origin.registry : Origin → Registry ω
  | empty => .empty
  | builtin => .builtin

def attempt (r : Registry ω) (e : FormulaId × Formula ω) : Except FormulaError Unit × Registry ω :=
  match r.register e.1 e.2 with
  | .ok r' => (.ok (), r')
  | .error error => (.error error, r)

def attemptAll (r : Registry ω) (calls : List (FormulaId × Formula ω)) : Registry ω :=
  calls.foldl (fun r e => (r.attempt e).2) r

variable (r : Registry ω) (e : FormulaId × Formula ω) (calls : List (FormulaId × Formula ω))
  (id : FormulaId)

variable {r e}

theorem attempt_of_fresh (h : r.formulas.get? e.1 = none) :
    r.attempt e = (.ok (), ⟨r.formulas.insert e.1 e.2⟩) := by
  simp [attempt, register, Table.contains, h]

theorem attempt_of_present {f : Formula ω} (h : r.formulas.get? e.1 = some f) :
    r.attempt e = (.error (.alreadyRegistered e.1), r) := by
  simp [attempt, register, Table.contains, h]

variable (r e)

theorem get?_attempt :
    (r.attempt e).2.formulas.get? id = (r.formulas.get? id).or ([e].lookup id) := by
  cases h : r.formulas.get? e.1 with
  | none =>
    rw [attempt_of_fresh h, Table.get?_insert, Table.lookup_single]
    by_cases same : id = e.1
    · rw [if_pos same, if_pos same, same, h, Option.none_or]
    · rw [if_neg same, if_neg same, Option.or_none]
  | some f =>
    rw [attempt_of_present h, Table.lookup_single]
    by_cases same : id = e.1
    · rw [same, h, Option.some_or]
    · rw [if_neg same, Option.or_none]

theorem get?_attemptAll :
    (r.attemptAll calls).formulas.get? id = (r.formulas.get? id).or (calls.lookup id) := by
  induction calls generalizing r with
  | nil => exact (Option.or_none).symm
  | cons e calls ih =>
    have first : r.attemptAll (e :: calls) = (r.attempt e).2.attemptAll calls := rfl
    rw [first, ih, get?_attempt, Option.or_assoc, ← List.lookup_append, List.singleton_append]

theorem get?_origin (origin : Origin) :
    (origin.registry : Registry ω).formulas.get? id = origin.formulas.lookup id := by
  cases origin with
  | empty => rfl
  | builtin =>
    rw [Origin.formulas, ← entries_builtin]
    exact (Table.lookup_of_perm (.refl _) id).symm

variable {e}

theorem get?_origin_of_mem {origin : Origin} (h : e ∈ origin.formulas) :
    origin.registry.formulas.get? e.1 = some e.2 := by
  cases origin with
  | empty => cases h
  | builtin =>
    apply Table.get?_eq_some_iff.2
    exact entries_builtin.symm ▸ h

theorem get?_log (origin : Origin) :
    (origin.registry.attemptAll calls).formulas.get? id =
      (origin.formulas ++ calls).lookup id := by
  rw [get?_attemptAll, get?_origin, List.lookup_append]

theorem exists_lookup_iff (log : List (FormulaId × Formula ω)) :
    (∃ f, log.lookup id = some f) ↔ id ∈ log.map (·.1) := by
  induction log with
  | nil => simp
  | cons e log ih =>
    rw [← List.singleton_append, List.lookup_append, Table.lookup_single]
    by_cases same : id = e.1
    · simp [same]
    · simp [same, ih]

variable {r id}

theorem mem_ids : id ∈ r.ids ↔ ∃ f, r.formulas.get? id = some f := Table.mem_keys

theorem ids_ascending : r.ids.Pairwise (· < ·) := by
  rw [ids, Table.keys, List.pairwise_map]
  exact r.formulas.ascending.imp Std.compare_eq_lt.1

theorem size_eq_length_ids : r.size = r.ids.length := by
  rw [size, Table.size, ids, Table.keys, List.length_map]

theorem contains_iff_mem_ids : r.contains id = true ↔ id ∈ r.ids := by
  rw [mem_ids, contains, Table.contains, Option.isSome_iff_exists]

end Registry

theorem Dispatcher.evaluate_of_same_get {σ ω : Type} [RandomSource σ] {r r' : Registry ω}
    {id : FormulaId} (same : r'.get id = r.get id) (constants : CombatConstants)
    (context : Context) (c : Combatants) (source : σ) (init : Amount) :
    evaluate ⟨r', constants⟩ id context c source init =
      evaluate ⟨r, constants⟩ id context c source init := by
  simp only [evaluate, setting, same]

namespace Registry

variable {σ ω : Type} [RandomSource σ]

/-- After any registrations, the registry holds the first formula of every identifier that was ever
registered, and nothing else. It refuses another one and stays as it is, and evaluates a formula that
it holds in the same way after any more registrations. -/
theorem registrations_keep_first (origin : Origin) (calls : List (FormulaId × Formula ω)) :
    let r := origin.registry.attemptAll calls
    let log := origin.formulas ++ calls
    (∀ e, (r.attempt e).1 =
        if e.1 ∈ log.map (·.1) then .error (.alreadyRegistered e.1) else .ok ()) ∧
      (∀ e error, (r.attempt e).1 = .error error → (r.attempt e).2 = r) ∧
      (∀ id f, r.get id = .ok f ↔ log.lookup id = some f) ∧
      (∀ id, r.get id = .error (.unknownFormula id) ↔ id ∉ log.map (·.1)) ∧
      (∀ e ∈ origin.formulas, r.get e.1 = .ok e.2) ∧
      r.ids.Pairwise (· < ·) ∧ (∀ id, id ∈ r.ids ↔ id ∈ log.map (·.1)) ∧
      r.size = r.ids.length ∧ (∀ id, r.contains id = true ↔ id ∈ r.ids) ∧
      ∀ later constants id, id ∈ r.ids →
        ∀ (context : Context) (c : Combatants) (source : σ) (init : Amount),
          Dispatcher.evaluate ⟨r.attemptAll later, constants⟩ id context c source init =
            Dispatcher.evaluate ⟨r, constants⟩ id context c source init := by
  intro r log
  have held (id : FormulaId) : r.formulas.get? id = log.lookup id := get?_log calls id origin
  have present (id : FormulaId) : id ∈ r.ids ↔ id ∈ log.map (·.1) := by
    rw [mem_ids, held, exists_lookup_iff]
  refine ⟨?answer, ?refused, ?first, ?unknown, ?builtin, ids_ascending, present,
    size_eq_length_ids, fun _ => contains_iff_mem_ids, ?stable⟩
  case answer =>
    intro e
    cases h : r.formulas.get? e.1 with
    | none =>
      have fresh : e.1 ∉ log.map (·.1) := by
        rw [← present, mem_ids, h]
        exact nofun
      rw [attempt_of_fresh h, if_neg fresh]
    | some f =>
      have old : e.1 ∈ log.map (·.1) := by
        rw [← present, mem_ids]
        exact ⟨f, h⟩
      rw [attempt_of_present h, if_pos old]
  case refused =>
    intro e error refused
    cases h : r.formulas.get? e.1 with
    | none =>
      rw [attempt_of_fresh h] at refused
      cases refused
    | some f => rw [attempt_of_present h]
  case first =>
    intro id f
    rw [get_eq_ok_iff, held]
  case unknown =>
    intro id
    rw [get_eq_unknown_iff, ← present, mem_ids]
    cases r.formulas.get? id <;> simp
  case builtin =>
    intro e mem
    rw [get_eq_ok_iff, held, List.lookup_append, ← get?_origin, get?_origin_of_mem mem,
      Option.some_or]
  case stable =>
    intro later constants id mem context c source init
    obtain ⟨f, hf⟩ := mem_ids.1 mem
    apply Dispatcher.evaluate_of_same_get
    rw [get_eq_ok_iff.2 hf, get_eq_ok_iff, get?_attemptAll, hf, Option.some_or]

def feint (damage : Amount) : Formula Empty where
  hitRate _ _ := 0
  damage _ := .done damage

theorem registrations_feints :
    let r := Origin.builtin.registry.attemptAll [(7, feint 1), (10001, feint 2), (7, feint 3)]
    (r.attempt (10001, feint 4)).1 = .error (.alreadyRegistered 10001) ∧
      r.get 7 = .ok (feint 1) ∧ r.get 10001 = .ok ⟨Builtin.alwaysHits, Builtin.fixedStrike⟩ ∧
      r.get 8 = .error (.unknownFormula 8) ∧
      (Dispatcher.evaluate ⟨r.attemptAll [(7, feint 5), (8, feint 6)], {}⟩ 7 {} {}
        (ScriptedRolls.fixed 0) 0).damage = .ok 1 := by
  intro r
  obtain ⟨answer, -, first, unknown, builtin, -, present, -, -, stable⟩ :=
    registrations_keep_first (σ := ScriptedRolls) .builtin
      [(7, feint 1), (10001, feint 2), (7, feint 3)]
  refine ⟨?_, (first 7 _).2 rfl, builtin _ List.mem_cons_self, (unknown 8).2 (by decide), ?_⟩
  · exact (answer (10001, feint 4)).trans (if_pos (by decide))
  · rw [stable _ _ 7 ((present 7).2 (by decide))]
    rfl

end Registry

end Skirmish
