import Skirmish.Combat.ContextJson
import Skirmish.Proofs.JsonRecords

namespace Skirmish

open Json (Numeral)

namespace FightInfo

variable {f : FightInfo} {j : Json Numeral}

def fields (f : FightInfo) : Json.Fields :=
  [("fight_id", .ofInt f.id.toNat),
    ("success", .bool f.success),
    ("value", .ofFloat f.value)]

def toPositional (f : FightInfo) : Json Numeral :=
  .array [.ofInt f.id.toNat, .bool f.success, .ofFloat f.value]

def Form (f : FightInfo) : Json Numeral → Prop := Json.RecordForm f.fields fun _ => False

theorem form_toJson (f : FightInfo) : f.Form f.toJson := .ofFields f.fields _

theorem form_toPositional (f : FightInfo) : f.Form f.toPositional := .ofValues f.fields _

theorem Form.ofJson? (h : f.Form j) (finite : f.value.isFinite) : ofJson? j = some f := by
  have distinct : (f.fields.map (·.1)).Nodup :=
    show ["fight_id", "success", "value"].Nodup by decide
  obtain ⟨r, read, has⟩ := h.exists_readRecord? distinct (Nat.le_refl 3) (fun _ _ out => out)
  have id : r.required "fight_id" Json.readUInt32? = some f.id :=
    has.required (List.mem_of_getElem? (i := 0) rfl) (fun out => out)
      (Json.readUInt32?_ofInt f.id)
  have success : r.required "success" Json.readBool? = some f.success :=
    has.required (List.mem_of_getElem? (i := 1) rfl) (fun out => out) rfl
  have value : r.required "value" Json.readFloat? = some f.value :=
    has.required (List.mem_of_getElem? (i := 2) rfl) (fun out => out)
      (Json.readFloat?_ofFloat finite)
  replace read : j.readRecord? ["fight_id", "success", "value"] 3 = some r := read
  rw [FightInfo.ofJson?, read]
  simp only [Option.bind_eq_bind, Option.bind_some, id, success, value]
  rfl

theorem Form.eq_value (h : f.Form j) {x : Float} (mem : .decimal x ∈ j.numbers) : x = f.value := by
  obtain ⟨field, there, hx⟩ := h.mem_numbers mem
  simp only [fields, List.mem_cons, List.not_mem_nil, or_false] at there
  obtain rfl | rfl | rfl := there
  · exact absurd hx Json.decimal_notMem_ofInt
  · cases hx
  · exact Json.decimal_mem_ofFloat hx

end FightInfo

namespace Context

variable {c : Context} {j : Json Numeral}

def fields (c : Context) (damage params fights : Json Numeral) : Json.Fields :=
  [("damage_by_type", damage),
    ("trace", .ofOption (fun lines => .array (lines.map .string)) c.trace),
    ("custom_params", params),
    ("final_combat_type", .ofOption (fun type => .ofInt type.toInt) c.finalType),
    ("fight_info", fights),
    ("attack_target_count", .ofInt c.targetCount.toInt)]

def DamageForm (c : Context) : Json Numeral → Prop :=
  Json.MapForm CombatType.key (fun amount => .ofInt amount.toInt) c.damage.toList

def ParamsForm (c : Context) : Json Numeral → Prop :=
  Json.MapForm id .ofFloat c.params.toList

inductive Form (c : Context) : Json Numeral → Prop
  | record {damage params fights j : Json Numeral} : c.DamageForm damage → c.ParamsForm params →
      Json.ListForm FightInfo.Form c.fights fights →
      Json.RecordForm (c.fields damage params fights) (fun _ => False) j → c.Form j

def toPositional (c : Context) : Json Numeral :=
  .array [
    .object (c.damage.toList.map fun (type, amount) => (type.key, .ofInt amount.toInt)),
    .ofOption (fun lines => .array (lines.map .string)) c.trace,
    .object (c.params.toList.map fun (name, value) => (name, .ofFloat value)),
    .ofOption (fun type => .ofInt type.toInt) c.finalType,
    .array (c.fights.map FightInfo.toPositional),
    .ofInt c.targetCount.toInt]

theorem form_toJson (c : Context) : c.Form c.toJson := by
  apply Form.record (.object (.refl _)) (.object (.refl _))
  · exact .ofMap FightInfo.form_toJson c.fights
  · exact .ofFields (c.fields _ _ _) _

theorem form_toPositional (c : Context) : c.Form c.toPositional := by
  apply Form.record (.object (.refl _)) (.object (.refl _))
  · exact .ofMap FightInfo.form_toPositional c.fights
  · exact .ofValues (c.fields _ _ _) _

def doubles (c : Context) : List Float := c.params.values ++ c.fights.map (·.value)

theorem mem_doubles_of_param {e : String × Float} (mem : e ∈ c.params.toList) : e.2 ∈ c.doubles :=
  List.mem_append_left _ (List.mem_map_of_mem mem)

theorem mem_doubles_of_fight {f : FightInfo} (mem : f ∈ c.fights) : f.value ∈ c.doubles :=
  List.mem_append_right _ (List.mem_map_of_mem mem)

theorem DamageForm.exists_read (h : c.DamageForm j) :
    ∃ amounts, j.readMembers? CombatType.ofKey? Json.readInt64? = some amounts ∧
      .ofList amounts = c.damage := by
  obtain ⟨amounts, read, perm⟩ :=
    h.readMembers? CombatType.ofKey?_key fun e _ => Json.readInt64?_ofInt e.2
  exact ⟨amounts, read, Table.ofList_of_perm perm⟩

theorem ParamsForm.exists_read (h : c.ParamsForm j) (finite : ∀ x ∈ c.doubles, x.isFinite) :
    ∃ values, j.readMembers? some Json.readFloat? = some values ∧ .ofList values = c.params := by
  obtain ⟨values, read, perm⟩ := h.readMembers? (fun _ => rfl) fun e mem =>
    Json.readFloat?_ofFloat (finite e.2 (mem_doubles_of_param mem))
  exact ⟨values, read, Table.ofList_of_perm perm⟩

theorem Form.ofJson? (h : c.Form j) (finite : ∀ x ∈ c.doubles, x.isFinite) :
    ofJson? j = some c := by
  obtain @⟨damage, params, fights, _, damageForm, paramsForm, fightForms, record⟩ := h
  have distinct : ((c.fields damage params fights).map (·.1)).Nodup :=
    show fieldNames.Nodup by decide
  obtain ⟨r, read, has⟩ := record.exists_readRecord? distinct (Nat.le_refl 6) (fun _ _ out => out)
  obtain ⟨amounts, readDamage, damage_eq⟩ := damageForm.exists_read
  obtain ⟨values, readParams, params_eq⟩ := paramsForm.exists_read finite
  have readFights : fights.readList? FightInfo.ofJson? = some c.fights :=
    fightForms.readList? fun _ mem _ form => form.ofJson? (finite _ (mem_doubles_of_fight mem))
  have damage : r.required "damage_by_type"
      (Json.readMembers? CombatType.ofKey? Json.readInt64?) = some amounts :=
    has.required (List.mem_of_getElem? (i := 0) rfl) (fun out => out) readDamage
  have trace : r.optional "trace" (Json.readList? Json.readString?) = some c.trace :=
    has.optional (List.mem_of_getElem? (i := 1) rfl) (fun out => out)
      (Json.readList?_map fun _ => rfl) nofun
  have params : r.required "custom_params" (Json.readMembers? some Json.readFloat?) =
      some values :=
    has.required (List.mem_of_getElem? (i := 2) rfl) (fun out => out) readParams
  have finalType : r.optional "final_combat_type" Json.readInt32? = some c.finalType :=
    has.optional (List.mem_of_getElem? (i := 3) rfl) (fun out => out) Json.readInt32?_ofInt nofun
  have fights : r.required "fight_info" (Json.readList? FightInfo.ofJson?) = some c.fights :=
    has.required (List.mem_of_getElem? (i := 4) rfl) (fun out => out) readFights
  have targetCount : r.required "attack_target_count" Json.readInt64? = some c.targetCount :=
    has.required (List.mem_of_getElem? (i := 5) rfl) (fun out => out)
      (Json.readInt64?_ofInt c.targetCount)
  replace read : j.readRecord? fieldNames 6 = some r := read
  rw [Context.ofJson?, read]
  simp only [Option.bind_eq_bind, Option.bind_some, damage, trace, params, finalType, fights,
    targetCount, damage_eq, params_eq]
  rfl

theorem Form.mem_doubles (h : c.Form j) {x : Float} (mem : .decimal x ∈ j.numbers) :
    x ∈ c.doubles := by
  obtain ⟨damage, params, fights, record⟩ := h
  obtain ⟨field, there, hx⟩ := record.mem_numbers mem
  simp only [fields, List.mem_cons, List.not_mem_nil, or_false] at there
  obtain rfl | rfl | rfl | rfl | rfl | rfl := there
  case inl =>
    obtain ⟨e, _, he⟩ := damage.mem_numbers hx
    exact absurd he Json.decimal_notMem_ofInt
  case inr.inl =>
    obtain ⟨lines, hx⟩ := Json.mem_numbers_ofOption hx
    obtain ⟨item, listed, hx⟩ := Json.mem_numbers_array.1 hx
    obtain ⟨line, _, rfl⟩ := List.mem_map.1 listed
    cases hx
  case inr.inr.inl =>
    obtain ⟨e, listed, he⟩ := params.mem_numbers hx
    rw [Json.decimal_mem_ofFloat he]
    exact mem_doubles_of_param listed
  case inr.inr.inr.inl =>
    obtain ⟨type, hx⟩ := Json.mem_numbers_ofOption hx
    exact absurd hx Json.decimal_notMem_ofInt
  case inr.inr.inr.inr.inl =>
    obtain ⟨f, listed, item, form, hf⟩ := fights.mem_numbers hx
    rw [form.eq_value hf]
    exact mem_doubles_of_fight listed
  case inr.inr.inr.inr.inr => exact absurd hx Json.decimal_notMem_ofInt

/-- A context whose doubles are finite is read back from what it is written as, from the array of
its fields and from every other form of it; and from the text of a form if the doubles are printed
as numerals that are read as these doubles. -/
theorem reads_finite_forms (c : Context) (finite : ∀ x ∈ c.doubles, x.isFinite) :
    c.Form c.toJson ∧ c.Form c.toPositional ∧
      ∀ j, c.Form j →
        ofJson? j = some c ∧
          ∀ decimal : Float → String,
            (∀ x ∈ c.doubles, Json.Readable (Numeral.text decimal) (.decimal x)) →
              Json.readText? ofJson? (j.compact (Numeral.text decimal)) = some c := by
  refine ⟨c.form_toJson, c.form_toPositional, fun j form => ⟨form.ofJson? finite, ?_⟩⟩
  intro decimal readable
  exact Json.readText?_compact (form.ofJson? finite) fun x mem =>
    readable x (form.mem_doubles mem)

theorem reads_values_untraced :
    let c : Context := {
      damage := .ofList [(-3, -9223372036854775808), (2, 7)]
      trace := none
      params := .ofList [("par001", 0.5), ("damageRate", 5000)]
      finalType := some (-3)
      fights := [⟨7, true, -2.5⟩] }
    (∀ x ∈ c.doubles, x.isFinite) ∧
      Json.readText? ofJson? ("[\x7b\"-3\":-9223372036854775808,\"2\":7\x7d,null," ++
        "\x7b\"damageRate\":5000.0,\"par001\":0.5\x7d,-3,[[7,true,-2.5]],1]") = some c := by
  intro c
  have finite : ∀ x ∈ c.doubles, x.isFinite := by decide +kernel
  have readable : ∀ x ∈ c.doubles,
      Json.Parse.numeral (Decimal.onePlace x).toList = some (.decimal x, []) := by decide +kernel
  have text : c.toPositional.compact (Numeral.text Decimal.onePlace) =
      "[\x7b\"-3\":-9223372036854775808,\"2\":7\x7d,null," ++
        "\x7b\"damageRate\":5000.0,\"par001\":0.5\x7d,-3,[[7,true,-2.5]],1]" := by
    decide +kernel
  have ⟨_, positional, reads⟩ := reads_finite_forms c finite
  rw [← text]
  exact ⟨finite, (reads _ positional).2 Decimal.onePlace readable⟩

end Context

end Skirmish
