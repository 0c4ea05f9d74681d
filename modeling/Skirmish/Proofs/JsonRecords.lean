import Mathlib.Data.List.Forall2
import Skirmish.Json.Reader
import Skirmish.Proofs.JsonText

/-!
The forms of a record in JSON. An object has the fields in any order and may leave out any of those
that may be omitted; an array has their values in the order of the fields and may leave them out only
at its end. Whatever the form, a reader that asks for the fields by name gets the same answers. A
list is an array in which each item may have a form of its own.
-/

namespace Skirmish

namespace Json

abbrev Fields := List (String × Json Numeral)

inductive RecordForm (fields : Fields) (omits : String → Prop) : Json Numeral → Prop
  | object {members omitted : Fields} : (members ++ omitted).Perm fields →
      (∀ f ∈ omitted, omits f.1) → RecordForm fields omits (.object members)
  | array {kept omitted : Fields} : kept ++ omitted = fields →
      (∀ f ∈ omitted, omits f.1) → RecordForm fields omits (.array (kept.map (·.2)))

theorem RecordForm.ofFields (fields : Fields) (omits : String → Prop) :
    RecordForm fields omits (.object fields) :=
  .object (by rw [List.append_nil]) (List.forall_mem_nil _)

theorem RecordForm.ofValues (fields : Fields) (omits : String → Prop) :
    RecordForm fields omits (.array (fields.map (·.2))) :=
  .array (List.append_nil fields) (List.forall_mem_nil _)

theorem RecordForm.mem_numbers {fields : Fields} {omits : String → Prop} {j : Json Numeral}
    (h : RecordForm fields omits j) {n : Numeral} (mem : n ∈ j.numbers) :
    ∃ f ∈ fields, n ∈ f.2.numbers := by
  cases h with
  | object perm _ =>
    obtain ⟨m, hm, hn⟩ := mem_numbers_object.1 mem
    exact ⟨m, perm.mem_iff.1 (List.mem_append_left _ hm), hn⟩
  | array whole _ =>
    obtain ⟨_, hv, hn⟩ := mem_numbers_array.1 mem
    obtain ⟨f, hf, rfl⟩ := List.mem_map.1 hv
    exact ⟨f, whole ▸ List.mem_append_left _ hf, hn⟩

theorem findMember_eq_none {key : String} {members : Fields} (h : key ∉ members.map (·.1)) :
    findMember key members = none := by
  induction members with
  | nil => rfl
  | cons m members ih =>
    rw [List.map_cons, List.mem_cons, not_or] at h
    rw [findMember, ih h.2, if_neg (Ne.symm h.1)]
    rfl

theorem findMember_of_mem {key : String} {v : Json Numeral} {members : Fields}
    (distinct : (members.map (·.1)).Nodup) (h : (key, v) ∈ members) :
    findMember key members = some v := by
  induction members with
  | nil => cases h
  | cons m members ih =>
    rw [List.map_cons, List.nodup_cons] at distinct
    rw [findMember]
    rcases List.mem_cons.1 h with rfl | h
    · rw [findMember_eq_none distinct.1, if_pos rfl]
      rfl
    · rw [ih distinct.2 h]
      rfl

theorem positional_eq_none {key : String} {kept omitted : Fields} (h : key ∉ kept.map (·.1)) :
    positional ((kept ++ omitted).map (·.1)) (kept.map (·.2)) key = none := by
  induction kept with
  | nil => cases omitted <;> rfl
  | cons f kept ih =>
    rw [List.map_cons, List.mem_cons, not_or] at h
    rw [List.cons_append, List.map_cons, List.map_cons, positional, if_neg h.1, ih h.2]

theorem positional_of_mem {key : String} {v : Json Numeral} {kept omitted : Fields}
    (distinct : (kept.map (·.1)).Nodup) (h : (key, v) ∈ kept) :
    positional ((kept ++ omitted).map (·.1)) (kept.map (·.2)) key = some v := by
  induction kept with
  | nil => cases h
  | cons f kept ih =>
    rw [List.map_cons, List.nodup_cons] at distinct
    rw [List.cons_append, List.map_cons, List.map_cons, positional]
    rcases List.mem_cons.1 h with rfl | h
    · rw [if_pos rfl]
    · have ne : key ≠ f.1 := by
        rintro rfl
        exact distinct.1 (List.mem_map.2 ⟨_, h, rfl⟩)
      rw [if_neg ne, ih distinct.2 h]

namespace Record

/-- A record that answers for the fields, but for some of those that may be omitted. -/
def Has (r : Record) (fields : Fields) (omits : String → Prop) : Prop :=
  ∀ f ∈ fields, r f.1 = some f.2 ∨ omits f.1 ∧ r f.1 = none

variable {α : Type} {r : Record} {fields : Fields} {omits : String → Prop} {name : String}
  {v : Json Numeral}

theorem has_of_perm {kept omitted : Fields} (perm : (kept ++ omitted).Perm fields)
    (out : ∀ f ∈ omitted, omits f.1) (distinct : (fields.map (·.1)).Nodup)
    (there : (kept.map (·.1)).Nodup → ∀ f ∈ kept, r f.1 = some f.2)
    (missing : ∀ key, key ∉ kept.map (·.1) → r key = none) : r.Has fields omits := by
  intro f mem
  have apart := (perm.map (·.1)).nodup_iff.2 distinct
  rw [List.map_append, List.nodup_append] at apart
  rcases List.mem_append.1 (perm.mem_iff.2 mem) with hf | hf
  · exact .inl (there apart.1 f hf)
  · refine .inr ⟨out f hf, missing _ fun kept => ?_⟩
    exact apart.2.2 _ kept _ (List.mem_map_of_mem hf) rfl

theorem Has.required (h : r.Has fields omits) (mem : (name, v) ∈ fields) (needed : ¬ omits name)
    {a : α} {read : Json Numeral → Option α} (given : read v = some a) :
    r.required name read = some a := by
  rw [Record.required, (h _ mem).resolve_right fun out => needed out.1]
  exact given

theorem Has.withDefault (h : r.Has fields omits) (mem : (name, v) ∈ fields) {a default : α}
    (omitted : omits name → a = default) {read : Json Numeral → Option α}
    (given : read v = some a) : r.withDefault name default read = some a := by
  rw [Record.withDefault]
  obtain there | ⟨out, missing⟩ := h _ mem
  · rw [there]
    exact given
  · rw [missing, omitted out]

theorem Has.optional {o : Option α} {write : α → Json Numeral} (h : r.Has fields omits)
    (mem : (name, ofOption write o) ∈ fields) (needed : ¬ omits name)
    {read : Json Numeral → Option α} (given : ∀ a, read (write a) = some a)
    (ne : ∀ a, write a ≠ null) : r.optional name read = some o := by
  rw [Record.optional, (h _ mem).resolve_right fun out => needed out.1]
  cases o with
  | none => rfl
  | some a =>
    rw [ofOption]
    split
    · rename_i e
      cases e
    · rename_i e
      exact absurd (Option.some.inj e) (ne a)
    · rename_i e
      cases e
      rw [given]
      rfl

end Record

theorem length_kept {kept omitted : Fields} {omits : String → Prop}
    (out : ∀ f ∈ omitted, omits f.1) {least : Nat} (short : least ≤ (kept ++ omitted).length)
    (needed : ∀ f ∈ (kept ++ omitted).take least, ¬ omits f.1) : least ≤ kept.length := by
  cases omitted with
  | nil => rwa [List.append_nil] at short
  | cons f omitted =>
    apply Nat.le_of_not_lt
    intro lt
    refine needed f ?_ (out f List.mem_cons_self)
    obtain ⟨more, rfl⟩ := Nat.exists_eq_add_of_lt lt
    rw [List.take_append, Nat.add_assoc, Nat.add_sub_cancel_left, List.take_succ_cons]
    exact List.mem_append_right _ List.mem_cons_self

theorem RecordForm.exists_readRecord? {fields : Fields} {omits : String → Prop} {j : Json Numeral}
    (h : RecordForm fields omits j) (distinct : (fields.map (·.1)).Nodup) {least : Nat}
    (short : least ≤ fields.length) (needed : ∀ f ∈ fields.take least, ¬ omits f.1) :
    ∃ r, j.readRecord? (fields.map (·.1)) least = some r ∧ r.Has fields omits := by
  cases h with
  | object perm out =>
    exact ⟨_, rfl, Record.has_of_perm perm out distinct (fun nodup _ => findMember_of_mem nodup)
      fun _ => findMember_eq_none⟩
  | @array kept omitted whole out =>
    subst whole
    have bounds : least ≤ (kept.map (·.2)).length ∧
        (kept.map (·.2)).length ≤ ((kept ++ omitted).map (·.1)).length := by
      simp [length_kept out short needed]
    refine ⟨_, if_pos bounds, ?_⟩
    exact Record.has_of_perm (.refl _) out distinct (fun nodup _ => positional_of_mem nodup)
      fun _ => positional_eq_none

inductive ListForm {α : Type} (form : α → Json Numeral → Prop) (l : List α) : Json Numeral → Prop
  | array {items : List (Json Numeral)} : List.Forall₂ form l items → ListForm form l (.array items)

namespace ListForm

variable {α : Type} {form : α → Json Numeral → Prop} {l : List α} {j : Json Numeral}

theorem ofMap {write : α → Json Numeral} (h : ∀ a, form a (write a)) (l : List α) :
    ListForm form l (.array (l.map write)) := by
  refine .array ?_
  rw [List.forall₂_map_right_iff, List.forall₂_same]
  exact fun a _ => h a

theorem readList? {read : Json Numeral → Option α} (h : ListForm form l j)
    (given : ∀ a ∈ l, ∀ j, form a j → read j = some a) : j.readList? read = some l := by
  obtain ⟨forms⟩ := h
  rw [Json.readList?]
  induction forms with
  | nil => rfl
  | cons first _ ih =>
    rw [List.forall_mem_cons] at given
    rw [List.mapM_cons, given.1 _ first, ih given.2]
    rfl

theorem mem_numbers (h : ListForm form l j) {n : Numeral} (mem : n ∈ j.numbers) :
    ∃ a ∈ l, ∃ item, form a item ∧ n ∈ item.numbers := by
  obtain ⟨forms⟩ := h
  obtain ⟨item, there, hn⟩ := mem_numbers_array.1 mem
  obtain ⟨i, lt, rfl⟩ := List.getElem_of_mem there
  have lt' : i < l.length := forms.length_eq ▸ lt
  exact ⟨l[i], List.getElem_mem lt', _, forms.get lt' lt, hn⟩

end ListForm

inductive MapForm {κ α : Type} (key : κ → String) (write : α → Json Numeral) (l : List (κ × α)) :
    Json Numeral → Prop
  | object {entries : List (κ × α)} : entries.Perm l →
      MapForm key write l (.object (entries.map fun e => (key e.1, write e.2)))

namespace MapForm

variable {κ α : Type} {key : κ → String} {write : α → Json Numeral} {l : List (κ × α)}
  {j : Json Numeral}

theorem readMembers? (h : MapForm key write l j) {readKey : String → Option κ}
    {read : Json Numeral → Option α} (keys : ∀ k, readKey (key k) = some k)
    (given : ∀ e ∈ l, read (write e.2) = some e.2) :
    ∃ entries, j.readMembers? readKey read = some entries ∧ entries.Perm l := by
  obtain @⟨entries, perm⟩ := h
  refine ⟨entries, ?_, perm⟩
  replace given : ∀ e ∈ entries, read (write e.2) = some e.2 := fun e mem =>
    given e (perm.mem_iff.1 mem)
  rw [Json.readMembers?]
  clear perm
  induction entries with
  | nil => rfl
  | cons e entries ih =>
    rw [List.forall_mem_cons] at given
    simp only [List.map_cons, List.mapM_cons, keys, given.1, ih given.2]
    rfl

theorem mem_numbers (h : MapForm key write l j) {n : Numeral} (mem : n ∈ j.numbers) :
    ∃ e ∈ l, n ∈ (write e.2).numbers := by
  obtain ⟨perm⟩ := h
  obtain ⟨m, there, hn⟩ := mem_numbers_object.1 mem
  obtain ⟨e, he, rfl⟩ := List.mem_map.1 there
  exact ⟨e, perm.mem_iff.1 he, hn⟩

end MapForm

theorem mem_numbers_ofOption {α : Type} {write : α → Json Numeral} {o : Option α} {n : Numeral}
    (mem : n ∈ (ofOption write o).numbers) : ∃ a, n ∈ (write a).numbers := by
  cases o with
  | none => cases mem
  | some a => exact ⟨a, mem⟩

@[simp] theorem decimal_notMem_ofInt {x : Float} {n : Int} : .decimal x ∉ (ofInt n).numbers := by
  simp [ofInt, numbers]

theorem decimal_mem_ofFloat {x y : Float} (mem : .decimal x ∈ (ofFloat y).numbers) : x = y := by
  rw [ofFloat] at mem
  split at mem
  · exact Numeral.decimal.inj (List.mem_singleton.1 mem)
  · cases mem

end Json

end Skirmish
