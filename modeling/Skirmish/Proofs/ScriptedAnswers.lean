import Skirmish.Random.Scripted

namespace Skirmish

def nextBelowAll {σ : Type} [RandomSource σ] (source : σ) : List UInt64 → List UInt64 × σ
  | [] => ([], source)
  | bound :: bounds =>
    let (n, source) := nextBelow source bound
    let (rest, source) := nextBelowAll source bounds
    (n :: rest, source)

namespace ScriptedRolls

variable {draws : List UInt64} {bound : UInt64}

theorem answer_eq_zero (call : Nat) (h : bound = 0 ∨ draws = []) : answer draws call bound = 0 := by
  unfold answer
  split
  · rfl
  · rename_i found
    obtain rfl | rfl := h
    · rfl
    · cases found

theorem exists_answer_eq (call : Nat) (nonzero : bound ≠ 0) (scripted : draws ≠ []) :
    ∃ inRange : call % draws.length < draws.length,
      answer draws call bound = min draws[call % draws.length] (bound - 1) := by
  have inRange : call % draws.length < draws.length :=
    Nat.mod_lt _ (List.length_pos_iff.2 scripted)
  refine ⟨inRange, ?_⟩
  simp only [answer, List.getElem?_eq_getElem inRange, if_neg nonzero]

theorem nextBelowAll_eq (rolls : ScriptedRolls) (bounds : List UInt64) :
    nextBelowAll rolls bounds =
      (bounds.mapIdx fun i => answer rolls.draws (rolls.consumed + i),
        ⟨rolls.draws, rolls.consumed + bounds.length⟩) := by
  induction bounds generalizing rolls with
  | nil => rfl
  | cons bound bounds ih =>
    simp only [nextBelowAll, ih, draws_nextBelow, consumed_nextBelow, List.mapIdx_cons,
      List.length_cons, Nat.add_assoc, Nat.add_comm 1]
    rfl

/-- A script is replayed from its start, over and over: the call of a number finds the draw there,
held below its bound. Its answer is the same whatever the earlier calls were bounded by. -/
theorem answers_cycle (draws bounds : List UInt64) :
    ∃ answers after, nextBelowAll (ofList draws) bounds = (answers, after) ∧
      answers.length = bounds.length ∧ after.consumed = bounds.length ∧
      (∀ (i : Nat) (call : i < bounds.length),
        (bounds[i] = 0 ∨ draws = [] → answers[i]? = some 0) ∧
        (bounds[i] ≠ 0 → draws ≠ [] → ∃ inRange : i % draws.length < draws.length,
          answers[i]? = some (min draws[i % draws.length] (bounds[i] - 1))) ∧
        (bounds[i] ≠ 0 → ∃ n, answers[i]? = some n ∧ n < bounds[i])) ∧
      ∀ earlier earlier' : List UInt64, earlier.length = earlier'.length →
        nextBelowAll (nextBelowAll (ofList draws) earlier).2 bounds =
          nextBelowAll (nextBelowAll (ofList draws) earlier').2 bounds := by
  have reply (i : Nat) (call : i < bounds.length) :
      (bounds.mapIdx fun i => answer draws (0 + i))[i]? = some (answer draws i bounds[i]) := by
    rw [List.getElem?_mapIdx, List.getElem?_eq_getElem call, Option.map_some, Nat.zero_add]
  refine ⟨_, _, nextBelowAll_eq (ofList draws) bounds, List.length_mapIdx, Nat.zero_add _,
    fun i call => ⟨?zero, ?held, ?below⟩, ?number⟩
  case zero =>
    intro h
    exact (reply i call).trans (by rw [answer_eq_zero i h])
  case held =>
    intro nonzero scripted
    obtain ⟨inRange, eq⟩ := exists_answer_eq i nonzero scripted
    exact ⟨inRange, (reply i call).trans (by rw [eq])⟩
  case below =>
    intro nonzero
    exact ⟨_, reply i call, answer_lt draws i (UInt64.pos_iff_ne_zero.2 nonzero)⟩
  case number =>
    intro earlier earlier' same
    rw [nextBelowAll_eq (ofList draws) earlier, nextBelowAll_eq (ofList draws) earlier', same]

theorem answers_twoDraws :
    ∃ answers after, nextBelowAll (ofList [3, 20000]) [10000, 0, 2, 10000] = (answers, after) ∧
      after.consumed = 4 ∧
      answers[1]? = some 0 ∧ answers[2]? = some 1 ∧ answers[3]? = some 9999 ∧
      nextBelowAll (nextBelowAll (ofList [3, 20000]) [5]).2 [10000, 0, 2, 10000] =
        nextBelowAll (nextBelowAll (ofList [3, 20000]) [0]).2 [10000, 0, 2, 10000] := by
  obtain ⟨answers, after, asked, -, consumed, replies, number⟩ :=
    answers_cycle [3, 20000] [10000, 0, 2, 10000]
  obtain ⟨_, second⟩ := (replies 2 (by decide)).2.1 (by decide) (by decide)
  obtain ⟨_, third⟩ := (replies 3 (by decide)).2.1 (by decide) (by decide)
  exact ⟨answers, after, asked, consumed, (replies 1 (by decide)).1 (.inl rfl), second, third,
    number [5] [0] rfl⟩

end ScriptedRolls

end Skirmish
