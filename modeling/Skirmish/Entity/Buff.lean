import Skirmish.Basic

namespace Skirmish

structure Buff where
  id : BuffId
  tags : List BuffTag := []
  stackCount : UInt32 := 1
  leftTime : Int64 := 0
  interval : Int64 := 0
  deriving DecidableEq, Repr

namespace Buff

def hasTag (b : Buff) (tag : BuffTag) : Bool := b.tags.contains tag

def insertTag (tags : List BuffTag) (tag : BuffTag) : List BuffTag :=
  if tags.contains tag then tags else tags ++ [tag]

/-- Stacks add up, the longer duration counts, missing tags follow and the interval stays. -/
def merge (b new : Buff) : Buff :=
  { b with
    tags := new.tags.foldl insertTag b.tags
    stackCount := b.stackCount + new.stackCount
    leftTime := max b.leftTime new.leftTime }

@[simp] theorem id_merge (b new : Buff) : (b.merge new).id = b.id := rfl

@[simp] theorem interval_merge (b new : Buff) : (b.merge new).interval = b.interval := rfl

theorem mem_insertTag {tags : List BuffTag} {t tag : BuffTag} :
    t ∈ insertTag tags tag ↔ t ∈ tags ∨ t = tag := by
  unfold insertTag
  split <;> simp_all

theorem mem_foldl_insertTag {new tags : List BuffTag} {t : BuffTag} :
    t ∈ new.foldl insertTag tags ↔ t ∈ tags ∨ t ∈ new := by
  induction new generalizing tags with
  | nil => simp
  | cons tag new ih => simp [ih, mem_insertTag, or_assoc]

@[simp] theorem hasTag_merge (b new : Buff) (t : BuffTag) :
    (b.merge new).hasTag t = (b.hasTag t || new.hasTag t) := by
  rw [Bool.eq_iff_iff]
  simp [hasTag, merge, mem_foldl_insertTag]

end Buff

structure BuffLedger where
  buffs : List Buff
  deriving DecidableEq, Repr

namespace BuffLedger

def empty : BuffLedger := ⟨[]⟩

instance : EmptyCollection BuffLedger := ⟨empty⟩

instance : Inhabited BuffLedger := ⟨empty⟩

def find (id : BuffId) (buffs : List Buff) : Option Buff := buffs.find? (·.id == id)

def addTo (new : Buff) : List Buff → List Buff
  | [] => [new]
  | b :: rest => if b.id = new.id then b.merge new :: rest else b :: addTo new rest

def add (ledger : BuffLedger) (new : Buff) : BuffLedger := ⟨addTo new ledger.buffs⟩

def get? (ledger : BuffLedger) (id : BuffId) : Option Buff := find id ledger.buffs

def count (ledger : BuffLedger) (id : BuffId) : Int64 :=
  match ledger.get? id with
  | some b => b.stackCount.toUInt64.toInt64
  | none => 0

def countByTag (ledger : BuffLedger) (tag : BuffTag) : Int64 :=
  ((ledger.buffs.filter (·.hasTag tag)).map (·.stackCount.toUInt64.toInt64)).sum

def leftTime (ledger : BuffLedger) (id : BuffId) : Int64 :=
  match ledger.get? id with
  | some b => max b.leftTime 0
  | none => 0

def interval (ledger : BuffLedger) (id : BuffId) : Int64 :=
  match ledger.get? id with
  | some b => b.interval
  | none => 0

def size (ledger : BuffLedger) : Nat := ledger.buffs.length

def isEmpty (ledger : BuffLedger) : Bool := ledger.buffs.isEmpty

theorem find_addTo (new : Buff) (id : BuffId) (buffs : List Buff) :
    find id (addTo new buffs) =
      if id = new.id then some ((find new.id buffs).elim new (·.merge new)) else find id buffs := by
  unfold find
  induction buffs with
  | nil =>
    by_cases h : new.id = id
    · simp [addTo, h]
    · simp [addTo, h, Ne.symm h]
  | cons b rest ih =>
    by_cases hb : b.id = new.id
    · by_cases h : id = new.id
      · simp [addTo, hb, h]
      · simp [addTo, hb, h, Ne.symm h]
    · by_cases h : id = new.id
      · subst h
        simpa [addTo, hb] using ih
      · simp [addTo, hb, h, ih, List.find?_cons]

theorem get?_add (ledger : BuffLedger) (new : Buff) (id : BuffId) :
    (ledger.add new).get? id =
      if id = new.id then some ((ledger.get? new.id).elim new (·.merge new)) else ledger.get? id :=
  find_addTo new id ledger.buffs

end BuffLedger

end Skirmish
