import Quarry.Record

/-!
The record store: records in the order in which they were last written. Writing a record takes out
the one with its id and puts the new one at the end, so no two records share an id.
-/

namespace Quarry

structure Store where
  records : List Record
  deriving DecidableEq, Repr

namespace Store

def empty : Store := ⟨[]⟩

instance : Inhabited Store := ⟨empty⟩

def get? (store : Store) (id : String) : Option Record :=
  store.records.find? fun record => record.id = id

def size (store : Store) : Nat :=
  store.records.length

def isEmpty (store : Store) : Bool :=
  store.records.isEmpty

/-- Takes the first record with the id out of a list. -/
def extract (id : String) : List Record → Option Record × List Record
  | [] => (none, [])
  | record :: records =>
    if record.id = id then (some record, records)
    else
      let (taken, left) := extract id records
      (taken, record :: left)

/-- Puts a record at the end and hands back the one that it replaces. -/
def upsert (store : Store) (record : Record) : Option Record × Store :=
  let (replaced, others) := extract record.id store.records
  (replaced, ⟨others ++ [record]⟩)

def insert (store : Store) (record : Record) : Store :=
  (store.upsert record).2

def insertAll (store : Store) (records : List Record) : Store :=
  records.foldl insert store

theorem extract_fst (id : String) (records : List Record) :
    (extract id records).1 = records.find? fun record => record.id = id := by
  induction records with
  | nil => rfl
  | cons record records ih =>
    by_cases h : record.id = id <;> simp [extract, h, ih]

theorem extract_snd (id : String) (records : List Record) :
    (extract id records).2 = records.eraseP fun record => record.id = id := by
  induction records with
  | nil => rfl
  | cons record records ih =>
    by_cases h : record.id = id <;> simp [extract, h, ih]

@[simp] theorem insertAll_nil (store : Store) : store.insertAll [] = store := rfl

@[simp] theorem insertAll_cons (store : Store) (record : Record) (records : List Record) :
    store.insertAll (record :: records) = (store.insert record).insertAll records := rfl

theorem insertAll_append (store : Store) (first second : List Record) :
    store.insertAll (first ++ second) = (store.insertAll first).insertAll second :=
  List.foldl_append

end Store

end Quarry
