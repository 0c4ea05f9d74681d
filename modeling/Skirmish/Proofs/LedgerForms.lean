import Skirmish.Entity.KindsJson
import Skirmish.Proofs.JsonRecords

namespace Skirmish

open Json (Numeral)

namespace Buff

def fields (b : Buff) : Json.Fields :=
  [("buff_id", .ofInt b.id.toNat),
    ("tags", .array (b.tags.map fun tag => .ofInt tag.toNat)),
    ("stacks", .ofInt b.stackCount.toNat),
    ("left_time", .ofInt b.leftTime.toInt),
    ("interval", .ofInt b.interval.toInt)]

def Omits (b : Buff) : String → Prop
  | "tags" => b.tags = []
  | "stacks" => b.stackCount = 1
  | "left_time" => b.leftTime = 0
  | "interval" => b.interval = 0
  | _ => False

def Form (b : Buff) : Json Numeral → Prop := Json.RecordForm b.fields b.Omits

variable {b : Buff} {j : Json Numeral}

theorem form_toJson (b : Buff) : b.Form b.toJson := .ofFields b.fields b.Omits

theorem Form.exists_record (h : b.Form j) :
    ∃ r, j.readRecord? fieldNames 1 = some r ∧ r.Has b.fields b.Omits := by
  have distinct : (b.fields.map (·.1)).Nodup := show fieldNames.Nodup by decide
  apply h.exists_readRecord? distinct (Nat.le_add_left 1 4)
  intro f mem out
  rw [List.mem_singleton.1 mem] at out
  exact out

theorem Form.ofJson? (h : b.Form j) : ofJson? j = some b := by
  obtain ⟨r, read, has⟩ := h.exists_record
  have id : r.required "buff_id" Json.readUInt32? = some b.id :=
    has.required (List.mem_of_getElem? (i := 0) rfl) (fun out => out)
      (Json.readUInt32?_ofInt b.id)
  have tags : r.withDefault "tags" [] (Json.readList? Json.readUInt32?) = some b.tags :=
    has.withDefault (List.mem_of_getElem? (i := 1) rfl) (fun out => out)
      (Json.readList?_map Json.readUInt32?_ofInt b.tags)
  have stackCount : r.withDefault "stacks" 1 Json.readUInt32? = some b.stackCount :=
    has.withDefault (List.mem_of_getElem? (i := 2) rfl) (fun out => out)
      (Json.readUInt32?_ofInt b.stackCount)
  have leftTime : r.withDefault "left_time" 0 Json.readInt64? = some b.leftTime :=
    has.withDefault (List.mem_of_getElem? (i := 3) rfl) (fun out => out)
      (Json.readInt64?_ofInt b.leftTime)
  have interval : r.withDefault "interval" 0 Json.readInt64? = some b.interval :=
    has.withDefault (List.mem_of_getElem? (i := 4) rfl) (fun out => out)
      (Json.readInt64?_ofInt b.interval)
  rw [Buff.ofJson?, read]
  simp only [Option.bind_eq_bind, Option.bind_some, id, tags, stackCount, leftTime, interval]
  rfl

theorem Form.decimal_notMem (h : b.Form j) (x : Float) : .decimal x ∉ j.numbers := by
  intro mem
  obtain ⟨f, there, hn⟩ := h.mem_numbers mem
  simp only [fields, List.mem_cons, List.not_mem_nil, or_false] at there
  obtain rfl | rfl | rfl | rfl | rfl := there
  case inr.inl => simp [Json.mem_numbers_array] at hn
  all_goals exact Json.decimal_notMem_ofInt hn

end Buff

namespace BuffLedger

variable {ledger : BuffLedger} {j : Json Numeral}

def Form (ledger : BuffLedger) : Json Numeral → Prop := Json.ListForm Buff.Form ledger.buffs

theorem form_toJson (ledger : BuffLedger) : ledger.Form ledger.toJson :=
  .ofMap Buff.form_toJson ledger.buffs

theorem Form.ofJson? (h : ledger.Form j) : ofJson? j = some ledger := by
  rw [BuffLedger.ofJson?, h.readList? fun _ _ _ form => form.ofJson?]
  rfl

theorem Form.decimal_notMem (h : ledger.Form j) (x : Float) : .decimal x ∉ j.numbers := by
  intro mem
  obtain ⟨b, _, item, form, hn⟩ := h.mem_numbers mem
  exact form.decimal_notMem x hn

/-- A ledger is read back from what it is written as, and from every other form of it, be it given
as a value or as a text. -/
theorem reads_every_form (decimal : Float → String) (ledger : BuffLedger) :
    ledger.Form ledger.toJson ∧
      ∀ j, ledger.Form j →
        ofJson? j = some ledger ∧
          Json.readText? ofJson? (j.compact (Numeral.text decimal)) = some ledger := by
  refine ⟨form_toJson ledger, fun _ form => ⟨form.ofJson?, ?_⟩⟩
  exact Json.readText?_compact form.ofJson? fun x mem => absurd mem (form.decimal_notMem x)

theorem reads_mixed_forms :
    let tagged : Buff := { id := 5, tags := [90, 90], stackCount := 2 }
    let ticking : Buff := { id := 5, interval := -3 }
    let j : Json Numeral := .array [
      .array [.ofInt 5, .array [.ofInt 90, .ofInt 90], .ofInt 2],
      .object [("interval", .ofInt (-3)), ("buff_id", .ofInt 5)]]
    Form ⟨[tagged, ticking]⟩ j ∧ ofJson? j = some ⟨[tagged, ticking]⟩ ∧
      Json.readText? ofJson? "[[5,[90,90],2],\x7b\"interval\":-3,\"buff_id\":5\x7d]" =
        some ⟨[tagged, ticking]⟩ := by
  intro tagged ticking j
  have array : tagged.Form (.array [.ofInt 5, .array [.ofInt 90, .ofInt 90], .ofInt 2]) := by
    apply Json.RecordForm.array (List.take_append_drop 3 tagged.fields)
    simp [tagged, Buff.fields, Buff.Omits]
  have object : ticking.Form (.object [("interval", .ofInt (-3)), ("buff_id", .ofInt 5)]) := by
    have perm : ([("interval", Json.ofInt (-3)), ("buff_id", Json.ofInt 5)] ++
        (ticking.fields.take 4).tail).Perm ticking.fields :=
      (List.perm_append_singleton _ (ticking.fields.take 4)).symm
    apply Json.RecordForm.object perm
    simp [ticking, Buff.fields, Buff.Omits]
  have form : Form ⟨[tagged, ticking]⟩ j := .array (.cons array (.cons object .nil))
  have text : j.compact (Numeral.text fun _ => "") =
      "[[5,[90,90],2],\x7b\"interval\":-3,\"buff_id\":5\x7d]" := by decide +kernel
  have reads := (reads_every_form (fun _ => "") ⟨[tagged, ticking]⟩).2 j form
  rw [text] at reads
  exact ⟨form, reads⟩

end BuffLedger

end Skirmish
