import Skirmish.Config.Entities
import Skirmish.Proofs.FormulaNames

namespace Skirmish

namespace AttributeId

/-- A key that spells a number: ASCII digits that denote it, with or without a plus sign before
them, between any blanks. -/
def Spells (key : String) (n : Nat) : Prop :=
  ∃ before sign digits after : List Char,
    key = String.ofList (before ++ (sign ++ digits ++ after)) ∧
      (∀ c ∈ before, Text.isBlank c) ∧ (∀ c ∈ after, Text.isBlank c) ∧
      (sign = [] ∨ sign = ['+']) ∧ digits ≠ [] ∧ (∀ c ∈ digits, '0' ≤ c ∧ c ≤ '9') ∧
      Decimal.value digits = n

def WellFormed (key : String) : Prop := ∃ n, n ≤ 4294967295 ∧ Spells key n

variable {key : String} {id : AttributeId}

theorem ofKey?_eq_some_iff_trim : ofKey? key = some id ↔
    ∃ sign digits, Text.trim key.toList = sign ++ digits ∧ (sign = [] ∨ sign = ['+']) ∧
      Decimal.readUInt32? digits = some id := by
  rw [ofKey?]
  split
  · rename_i ds trimmed
    constructor
    · intro read
      exact ⟨['+'], ds, trimmed, .inr rfl, read⟩
    · rintro ⟨sign, digits, parts, rfl | rfl, read⟩
      · -- Without a sign the plus would be one of the digits.
        obtain rfl : '+' :: ds = digits := trimmed.symm.trans parts
        have isDigit := List.all_eq_true.1 (Decimal.readUInt32?_eq_some_iff.1 read).2.1
        exact absurd (isDigit '+' List.mem_cons_self) (by decide)
      · obtain rfl : ds = digits := (List.cons.inj (trimmed.symm.trans parts)).2
        exact read
  · rename_i unsigned
    constructor
    · intro read
      exact ⟨[], _, rfl, .inl rfl, read⟩
    · rintro ⟨sign, digits, parts, rfl | rfl, read⟩
      · rw [parts]
        exact read
      · exact absurd parts (unsigned digits)

theorem trim_signed {before sign digits after : List Char}
    (blank_before : ∀ c ∈ before, Text.isBlank c) (blank_after : ∀ c ∈ after, Text.isBlank c)
    (signs : sign = [] ∨ sign = ['+']) (isDigit : digits.all Char.isDigit) :
    Text.trim (before ++ (sign ++ digits ++ after)) = sign ++ digits := by
  apply Text.trim_between blank_before _ blank_after
  intro c mem
  obtain mem | mem := List.mem_append.1 mem
  · obtain rfl | rfl := signs
    · cases mem
    · rw [List.mem_singleton.1 mem]
      rfl
  · exact Text.isBlank_of_isDigit (List.all_eq_true.1 isDigit c mem)

theorem ofKey?_eq_some_iff : ofKey? key = some id ↔ Spells key id.toNat := by
  rw [ofKey?_eq_some_iff_trim]
  constructor
  · rintro ⟨sign, digits, trimmed, signs, read⟩
    obtain ⟨some, isDigit, value⟩ := Decimal.readUInt32?_eq_some_iff.1 read
    obtain ⟨before, after, whole, blank_before, blank_after⟩ := Text.exists_trim key.toList
    rw [trimmed] at whole
    exact ⟨before, sign, digits, after, by rw [← whole, String.ofList_toList], blank_before,
      blank_after, signs, some, Decimal.all_isDigit_iff.1 isDigit,
      (Decimal.ofDigitChars_eq_value digits).symm.trans value⟩
  · rintro ⟨before, sign, digits, after, rfl, blank_before, blank_after, signs, some, isDigit, value⟩
    rw [← Decimal.all_isDigit_iff] at isDigit
    refine ⟨sign, digits, ?_, signs, Decimal.readUInt32?_eq_some_iff.2 ⟨some, isDigit, ?_⟩⟩
    · rw [String.toList_ofList, trim_signed blank_before blank_after signs isDigit]
    · rw [Decimal.ofDigitChars_eq_value, value]

theorem wellFormed_iff : WellFormed key ↔ ∃ id, ofKey? key = some id := by
  constructor
  · rintro ⟨n, fits, spells⟩
    have held : (UInt32.ofNat n).toNat = n := UInt32.toNat_ofNat_of_lt' (Nat.lt_succ_of_le fits)
    exact ⟨UInt32.ofNat n, ofKey?_eq_some_iff.2 (held.symm ▸ spells)⟩
  · rintro ⟨id, read⟩
    exact ⟨id.toNat, Nat.le_of_lt_succ id.toNat_lt, ofKey?_eq_some_iff.1 read⟩

instance (key : String) : Decidable (WellFormed key) :=
  decidable_of_iff ((ofKey? key).isSome = true) (by rw [wellFormed_iff, Option.isSome_iff_exists])

theorem not_wellFormed_iff : ¬ WellFormed key ↔ ofKey? key = none := by
  rw [wellFormed_iff, Option.eq_none_iff_forall_ne_some, not_exists]

end AttributeId

namespace Attributes

open AttributeId (Spells WellFormed ofKey?)

inductive Reads (l : List (String × Float)) : Except String (List (AttributeId × Float)) → Prop
  | all {entries : List (AttributeId × Float)} (known : ∀ e ∈ l, ∃ id, ofKey? e.1 = some id)
      (mem : ∀ id v, (id, v) ∈ entries ↔ ∃ key, (key, v) ∈ l ∧ ofKey? key = some id) :
      Reads l (.ok entries)
  | fault {key : String} {v : Float} (mem : (key, v) ∈ l) (unknown : ofKey? key = none) :
      Reads l (.error key)

theorem reads_mapM (l : List (String × Float)) : Reads l (l.mapM decode.entry) := by
  induction l with
  | nil => exact .all (List.forall_mem_nil _) fun id v => by simp
  | cons e rest ih =>
    obtain ⟨key, v⟩ := e
    rw [List.mapM_cons]
    cases read : ofKey? key with
    | none =>
      simp only [decode.entry, read]
      exact .fault List.mem_cons_self read
    | some id =>
      simp only [decode.entry, read]
      generalize rest.mapM decode.entry = outcome at ih
      cases ih with
      | all known mem =>
        refine .all (List.forall_mem_cons.2 ⟨⟨id, read⟩, known⟩) fun id' v' => ?_
        rw [List.mem_cons, mem]
        constructor
        · rintro (same | ⟨key', held, read'⟩)
          · cases same
            exact ⟨key, List.mem_cons_self, read⟩
          · exact ⟨key', List.mem_cons_of_mem _ held, read'⟩
        · rintro ⟨key', held, read'⟩
          obtain same | held := List.mem_cons.1 held
          · cases same
            exact .inl (by rw [Option.some.inj (read.symm.trans read')])
          · exact .inr ⟨key', held, read'⟩
      | fault held unknown => exact .fault (List.mem_cons_of_mem _ held) unknown

theorem exists_decode {l : List (String × Float)} (known : ∀ e ∈ l, ∃ id, ofKey? e.1 = some id)
    (single : ∀ {key key' id v v'}, (key, v) ∈ l → (key', v') ∈ l →
      ofKey? key = some id → ofKey? key' = some id → v = v') :
    ∃ a, decode l = .ok a ∧
      ∀ id v, a.get? id = some v ↔ ∃ key, (key, v) ∈ l ∧ ofKey? key = some id := by
  have reads := reads_mapM l
  cases read : l.mapM decode.entry with
  | error key =>
    rw [read] at reads
    obtain _ | ⟨mem, unknown⟩ := reads
    obtain ⟨id, found⟩ := known _ mem
    cases unknown.symm.trans found
  | ok entries =>
    rw [read] at reads
    obtain ⟨-, mem⟩ := reads
    refine ⟨.ofList entries, by rw [decode, read], fun id v => ?_⟩
    rw [Table.get?_ofList_eq_some_iff, mem]
    intro v v' first second
    obtain ⟨key, held, found⟩ := (mem id v).1 first
    obtain ⟨key', held', found'⟩ := (mem id v').1 second
    exact single held held' found found'

theorem decode_eq_ok {l : List (String × Float)} {a : Attributes}
    (known : ∀ e ∈ l, ∃ id, ofKey? e.1 = some id)
    (lists : ∀ id v, (∃ key, (key, v) ∈ l ∧ ofKey? key = some id) ↔ a.get? id = some v) :
    decode l = .ok a := by
  have single {key key' : String} {id : AttributeId} {v v' : Float} (mem : (key, v) ∈ l)
      (mem' : (key', v') ∈ l) (read : ofKey? key = some id) (read' : ofKey? key' = some id) :
      v = v' := by
    have held := (lists id v).1 ⟨key, mem, read⟩
    have held' := (lists id v').1 ⟨key', mem', read'⟩
    exact Option.some.inj (held.symm.trans held')
  obtain ⟨b, read, found⟩ := exists_decode known single
  have same : b = a := Table.ext_get? fun id => Option.ext fun v => (found id v).trans (lists id v)
  rw [read, same]

theorem mem_encode {a : Attributes} {key : String} {v : Float} :
    (key, v) ∈ a.encode ↔ ∃ id : AttributeId, key = toString id.toNat ∧ a.get? id = some v := by
  simp only [encode, List.mem_map, Prod.exists, Prod.mk.injEq, Table.get?_eq_some_iff, Table.toList]
  constructor
  · rintro ⟨id, _, mem, rfl, rfl⟩
    exact ⟨id, rfl, mem⟩
  · rintro ⟨id, rfl, mem⟩
    exact ⟨id, v, mem, rfl, rfl⟩

theorem decode_of_perm_encode {a : Attributes} {l : List (String × Float)}
    (order : l.Perm a.encode) : decode l = .ok a := by
  apply decode_eq_ok
  · intro e mem
    obtain ⟨id, written, -⟩ := mem_encode.1 (order.mem_iff.1 mem)
    exact ⟨id, by rw [written]; exact AttributeId.ofKey?_key id⟩
  · intro id v
    constructor
    · rintro ⟨key, mem, read⟩
      obtain ⟨id', rfl, held⟩ := mem_encode.1 (order.mem_iff.1 mem)
      obtain rfl : id' = id := Option.some.inj ((AttributeId.ofKey?_key id').symm.trans read)
      exact held
    · intro held
      exact ⟨id.key, order.mem_iff.2 (mem_encode.2 ⟨id, rfl, held⟩), AttributeId.ofKey?_key id⟩

/-- A table of which no two keys spell the same identifier, and at most one spells none. -/
structure Unambiguous (t : Table String Float) : Prop where
  distinct {key key' : String} {id : AttributeId} : key ∈ t.keys → key' ∈ t.keys →
    Spells key id.toNat → Spells key' id.toNat → key = key'
  oneFault {key key' : String} : key ∈ t.keys → key' ∈ t.keys →
    ¬ WellFormed key → ¬ WellFormed key' → key = key'

variable {t : Table String Float} {l : List (String × Float)}

theorem unambiguous_iff : Unambiguous t ↔ (t.keys.map ofKey?).Nodup := by
  rw [List.nodup_map_iff_inj_on t.nodup_keys]
  constructor
  · intro clear key mem key' mem' same
    cases read : ofKey? key with
    | none =>
      have ill := AttributeId.not_wellFormed_iff.2 read
      exact clear.oneFault mem mem' ill (AttributeId.not_wellFormed_iff.2 (same ▸ read))
    | some id =>
      have spells := AttributeId.ofKey?_eq_some_iff.1 read
      exact clear.distinct mem mem' spells (AttributeId.ofKey?_eq_some_iff.1 (same ▸ read))
  · intro apart
    constructor
    · intro key key' id mem mem' spells spells'
      apply apart key mem key' mem'
      rw [AttributeId.ofKey?_eq_some_iff.2 spells, AttributeId.ofKey?_eq_some_iff.2 spells']
    · intro key key' mem mem' ill ill'
      apply apart key mem key' mem'
      rw [AttributeId.not_wellFormed_iff.1 ill, AttributeId.not_wellFormed_iff.1 ill']

instance (t : Table String Float) : Decidable (Unambiguous t) :=
  decidable_of_iff _ unambiguous_iff.symm

theorem decode_of_wellFormed (clear : Unambiguous t) (order : l.Perm t.toList)
    (formed : ∀ key ∈ t.keys, WellFormed key) :
    ∃ a, decode l = .ok a ∧
      ∀ id v, a.get? id = some v ↔ ∃ key, t.get? key = some v ∧ Spells key id.toNat := by
  have held (key : String) (v : Float) : (key, v) ∈ l ↔ t.get? key = some v :=
    Table.mem_of_perm order key v
  have listed {key : String} {v : Float} (mem : (key, v) ∈ l) : key ∈ t.keys :=
    Table.mem_keys.2 ⟨v, (held key v).1 mem⟩
  have known : ∀ e ∈ l, ∃ id, ofKey? e.1 = some id := fun e mem =>
    AttributeId.wellFormed_iff.1 (formed e.1 (listed mem))
  have single {key key' : String} {id : AttributeId} {v v' : Float} (mem : (key, v) ∈ l)
      (mem' : (key', v') ∈ l) (read : ofKey? key = some id) (read' : ofKey? key' = some id) :
      v = v' := by
    obtain rfl : key = key' := clear.distinct (listed mem) (listed mem')
      (AttributeId.ofKey?_eq_some_iff.1 read) (AttributeId.ofKey?_eq_some_iff.1 read')
    exact Option.some.inj (((held key v).1 mem).symm.trans ((held key v').1 mem'))
  obtain ⟨a, read, found⟩ := exists_decode known single
  refine ⟨a, read, fun id v => ?_⟩
  simp only [found, held, AttributeId.ofKey?_eq_some_iff]

theorem decode_of_fault (clear : Unambiguous t) (order : l.Perm t.toList) {key : String}
    (mem : key ∈ t.keys) (ill : ¬ WellFormed key) : decode l = .error key := by
  have held := Table.mem_of_perm order
  have reads := reads_mapM l
  cases read : l.mapM decode.entry with
  | ok entries =>
    rw [read] at reads
    obtain ⟨known, -⟩ := reads
    obtain ⟨v, found⟩ := Table.mem_keys.1 mem
    exact absurd (AttributeId.wellFormed_iff.2 (known _ ((held key v).2 found))) ill
  | error key' =>
    rw [read] at reads
    obtain _ | ⟨mem', unknown⟩ := reads
    have listed : key' ∈ t.keys := Table.mem_keys.2 ⟨_, (held key' _).1 mem'⟩
    rw [decode, read, clear.oneFault mem listed ill (AttributeId.not_wellFormed_iff.2 unknown)]

theorem wellFormed_of_decode (clear : Unambiguous t) (order : l.Perm t.toList) {a : Attributes}
    (read : decode l = .ok a) : ∀ key ∈ t.keys, WellFormed key := by
  intro key mem
  by_contra ill
  cases read.symm.trans (decode_of_fault clear order mem ill)

theorem decode_of_perm (clear : Unambiguous t) (order : l.Perm t.toList) :
    decode l = decode t.toList := by
  by_cases formed : ∀ key ∈ t.keys, WellFormed key
  · obtain ⟨a, read, found⟩ := decode_of_wellFormed clear order formed
    obtain ⟨b, read', found'⟩ := decode_of_wellFormed clear (.refl _) formed
    have same : a = b :=
      Table.ext_get? fun id => Option.ext fun v => (found id v).trans (found' id v).symm
    rw [read, read', same]
  · push Not at formed
    obtain ⟨key, mem, ill⟩ := formed
    rw [decode_of_fault clear order mem ill, decode_of_fault clear (.refl _) mem ill]

theorem decode_eq_error_iff (clear : Unambiguous t) (order : l.Perm t.toList) {key : String} :
    decode l = .error key ↔ key ∈ t.keys ∧ ¬ WellFormed key := by
  constructor
  · intro failed
    by_cases formed : ∀ key ∈ t.keys, WellFormed key
    · obtain ⟨a, read, -⟩ := decode_of_wellFormed clear order formed
      cases read.symm.trans failed
    · push Not at formed
      obtain ⟨key', mem, ill⟩ := formed
      obtain rfl := Except.error.inj ((decode_of_fault clear order mem ill).symm.trans failed)
      exact ⟨mem, ill⟩
  · rintro ⟨mem, ill⟩
    exact decode_of_fault clear order mem ill

/-- A table is read as attributes exactly if each of its keys spells an identifier, whatever the
order in which its entries come. They map those identifiers to the values under the keys. The fault
of another table names the key that spells none, just as it is written. Attributes that are written
under their decimal keys are read back. -/
theorem decode_reads_keys :
    (∀ t : Table String Float, Unambiguous t → ∀ l : List (String × Float), l.Perm t.toList →
      ((∃ a, decode l = .ok a) ↔ ∀ key ∈ t.keys, WellFormed key) ∧
      (∀ a, decode l = .ok a →
        ∀ id v, a.get? id = some v ↔ ∃ key, t.get? key = some v ∧ Spells key id.toNat) ∧
      (∀ key, decode l = .error key ↔ key ∈ t.keys ∧ ¬ WellFormed key) ∧
      (∀ (written : Toml.Value) (key : String), written.readFloats = .ok l →
        decode l = .error key → ∃ fault, ofToml written = .error fault ∧
          fault.message? = some ("invalid attribute id " ++ "`" ++ key ++ "`")) ∧
      decode l = decode t.toList) ∧
    ∀ a : Attributes,
      (∀ key v, (key, v) ∈ a.encode ↔
        ∃ id : AttributeId, key = toString id.toNat ∧ a.get? id = some v) ∧
      ∀ l : List (String × Float), l.Perm a.encode → decode l = .ok a := by
  refine ⟨fun t clear l order => ⟨⟨?formed, ?read⟩, ?found, ?fault, ?message, ?order⟩,
    fun a => ⟨fun key v => mem_encode, fun l order => decode_of_perm_encode order⟩⟩
  case formed =>
    rintro ⟨a, read⟩
    exact wellFormed_of_decode clear order read
  case read =>
    intro formed
    obtain ⟨a, read, -⟩ := decode_of_wellFormed clear order formed
    exact ⟨a, read⟩
  case found =>
    intro a read
    have formed := wellFormed_of_decode clear order read
    obtain ⟨b, read', found⟩ := decode_of_wellFormed clear order formed
    obtain rfl : b = a := Except.ok.inj (read'.symm.trans read)
    exact found
  case fault =>
    intro key
    exact decode_eq_error_iff clear order
  case message =>
    intro written key entries failed
    refine ⟨.badKey key, ?_, rfl⟩
    rw [ofToml, entries]
    show (decode l).mapError Toml.Fault.badKey = _
    rw [failed]
    rfl
  case order => exact decode_of_perm clear order

theorem decode_signedKeys :
    let t : Table String Float := .ofList [("\u00a0+0010007\t", 250), ("10065\u3000", -0.0)]
    let twoSigns : Table String Float := .ofList [(" +-5", 1), ("5", 2)]
    Unambiguous t ∧ Unambiguous twoSigns ∧
      (∃ a, decode t.toList.reverse = .ok a ∧ a.get? 10007 = some 250 ∧
        a.get? 10065 = some (-0.0)) ∧
      decode twoSigns.toList.reverse = .error " +-5" := by
  intro t twoSigns
  have clear : Unambiguous t := by decide +kernel
  have clear' : Unambiguous twoSigns := by decide +kernel
  obtain ⟨formed, found, -⟩ := decode_reads_keys.1 t clear _ t.toList.reverse_perm
  obtain ⟨-, -, fault, -⟩ := decode_reads_keys.1 twoSigns clear' _ twoSigns.toList.reverse_perm
  obtain ⟨a, read⟩ := formed.2 (by decide +kernel)
  refine ⟨clear, clear', ⟨a, read, ?_, ?_⟩, (fault " +-5").2 ⟨by decide +kernel, by decide +kernel⟩⟩
  · apply (found a read 10007 250).2
    exact ⟨"\u00a0+0010007\t", by decide +kernel,
      AttributeId.ofKey?_eq_some_iff.1 (by decide +kernel)⟩
  · apply (found a read 10065 (-0.0)).2
    exact ⟨"10065\u3000", by decide +kernel, AttributeId.ofKey?_eq_some_iff.1 (by decide +kernel)⟩

end Attributes

end Skirmish
